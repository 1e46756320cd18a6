import EntityMapping.Proofs.Engine.Sql

/-!
# Tokens of SQL

SQL as a database reads it, before any grammar: words, signs, quoted texts and bound values.
Blanks separate words and are dropped otherwise.  Reading goes piece by piece and keeps the
word or the quoted text that has begun.

Main results:

- `lexRun_append`: reading goes on where it stopped.
- `Spells.append_blank`, `Spells.append_sign`: SQL put together at a blank or a sign has the
  tokens of its parts.
- `Spells.trimEnd`: blanks at the end do not count.
- `spells_word`: a word is one token.
-/

namespace EntityMapping

/-- The quotes around a text or an identifier. -/
inductive Quote
  | single
  | double
  | back
deriving DecidableEq, Repr

/-- A token of SQL. -/
inductive Token
  | word (cs : List Char)
  | sign (c : Char)
  | quoted (quote : Quote) (content : Sql)
  | bound (value : Json) (type? : Option JdbcType)

namespace Sql

/-- The quote that a character stands for. -/
def quote? (c : Char) : Option Quote :=
  if c ∈ "'".toList then some .single
  else if c ∈ "\"".toList then some .double
  else if c ∈ "`".toList then some .back
  else none

/-- Whether a character is a token of its own. -/
def isSign (c : Char) : Bool := c ∈ "()=<>,+-*/%|!;".toList

/-! ## Reading tokens -/

/-- What has begun and is not complete: nothing, a word, or a quoted text. -/
inductive Pending
  | none
  | word (cs : List Char)
  | quoted (quote : Quote) (content : Sql)

namespace Pending

/-- Whether quoted text has begun. -/
def isOpen : Pending → Bool
  | .quoted _ _ => true
  | _ => false

/-- The word that ends where something else begins. -/
def tokens : Pending → List Token
  | .word cs => [.word cs]
  | _ => []

/-- The word with a further character. -/
def extended (c : Char) : Pending → Pending
  | .word cs => .word (cs ++ [c])
  | _ => .word [c]

end Pending

/-- Read a piece outside quoted text. -/
def lexPlain (pending : Pending) : Piece → List Token × Pending
  | .bound value type? => (pending.tokens ++ [.bound value type?], .none)
  | .char c =>
    if Text.isBlank c then (pending.tokens, .none)
    else if isSign c then (pending.tokens ++ [.sign c], .none)
    else
      match quote? c with
      | some quote => (pending.tokens, .quoted quote [])
      | none => ([], pending.extended c)

/-- Read a piece inside quoted text, which ends with its quote. -/
def lexQuoted (quote : Quote) (content : Sql) : Piece → List Token × Pending
  | .bound value type? => ([], .quoted quote (content ++ [.bound value type?]))
  | .char c =>
    if quote? c = some quote then ([.quoted quote content], .none)
    else ([], .quoted quote (content ++ [.char c]))

/-- Read a piece: the tokens that it completes, and what is pending afterwards. -/
def lexStep : Pending → Piece → List Token × Pending
  | .quoted quote content, piece => lexQuoted quote content piece
  | .word cs, piece => lexPlain (.word cs) piece
  | .none, piece => lexPlain .none piece

/-- Read SQL piece by piece. -/
def lexRun (pending : Pending) : Sql → List Token × Pending
  | [] => ([], pending)
  | piece :: rest =>
    let (tokens, pending) := lexStep pending piece
    let (others, pending) := lexRun pending rest
    (tokens ++ others, pending)

/-- The tokens of SQL. -/
def lex (sql : Sql) : List Token := (lexRun .none (sql ++ text " ")).1

/-- The SQL has these tokens, and no quoted text is left open. -/
def Spells (sql : Sql) (tokens : List Token) : Prop :=
  lexRun .none (sql ++ text " ") = (tokens, .none)

/-! ## Laws of reading -/

variable {a b sql : Sql} {s t tokens : List Token}

/-- Reading goes on where it stopped. -/
theorem lexRun_append (pending : Pending) (a b : Sql) :
    lexRun pending (a ++ b) =
      ((lexRun pending a).1 ++ (lexRun (lexRun pending a).2 b).1,
        (lexRun (lexRun pending a).2 b).2) := by
  induction a generalizing pending with
  | nil => rfl
  | cons piece rest ih =>
    have hrest := ih (lexStep pending piece).2
    simp only [List.cons_append, lexRun, hrest, List.append_assoc]

/-- Outside quotes every piece is read plainly. -/
theorem lexStep_of_not_open {pending : Pending} (h : pending.isOpen = false) (piece : Piece) :
    lexStep pending piece = lexPlain pending piece := by
  cases pending with
  | quoted quote content => cases h
  | _ => rfl

/-- A blank is no quote. -/
theorem quote?_of_isBlank {c : Char} (h : Text.isBlank c = true) : quote? c = none := by
  have hsingle : c ∉ "'".toList := by
    intro hc
    rw [List.mem_singleton.mp hc] at h
    exact absurd h (by decide)
  have hdouble : c ∉ "\"".toList := by
    intro hc
    rw [List.mem_singleton.mp hc] at h
    exact absurd h (by decide)
  have hback : c ∉ "`".toList := by
    intro hc
    rw [List.mem_singleton.mp hc] at h
    exact absurd h (by decide)
  rw [quote?, if_neg hsingle, if_neg hdouble, if_neg hback]

/-- A blank completes a word, and it closes no quoted text. -/
theorem lexStep_blank (pending : Pending) {c : Char} (h : Text.isBlank c = true) :
    (lexStep pending (.char c)).2.isOpen = pending.isOpen ∧
      (pending.isOpen = false → lexStep pending (.char c) = (pending.tokens, .none)) := by
  cases pending with
  | none => simp [lexStep, lexPlain, h, Pending.isOpen]
  | word cs => simp [lexStep, lexPlain, h, Pending.isOpen]
  | quoted quote content => simp [lexStep, lexQuoted, quote?_of_isBlank h, Pending.isOpen]

/-- Blanks complete a word, and they close no quoted text. -/
theorem lexRun_blanks (pending : Pending) {blanks : Sql}
    (h : ∀ piece ∈ blanks, piece.isBlank = true) :
    (lexRun pending blanks).2.isOpen = pending.isOpen ∧ (pending.isOpen = false →
      (lexRun pending blanks).1 ++ (lexRun pending blanks).2.tokens = pending.tokens) := by
  induction blanks generalizing pending with
  | nil => exact ⟨rfl, fun _ => rfl⟩
  | cons piece rest ih =>
    have hpiece := h piece (List.mem_cons_self ..)
    have hrest : ∀ piece ∈ rest, piece.isBlank = true :=
      fun other hother => h other (List.mem_cons_of_mem _ hother)
    cases piece with
    | bound value type? => cases hpiece
    | char c =>
      obtain ⟨hopen, hclosed⟩ := lexStep_blank pending hpiece
      obtain ⟨hopenRest, _⟩ := ih (lexStep pending (.char c)).2 hrest
      refine ⟨hopenRest.trans hopen, fun hpending => ?_⟩
      have hnothing := (ih .none hrest).2 rfl
      rw [lexRun, hclosed hpending]
      simp only [List.append_assoc, hnothing]
      exact List.append_nil _

/-- At the end no quoted text is open, and the word that is pending counts. -/
theorem spells_iff : Spells sql tokens ↔ (lexRun .none sql).2.isOpen = false ∧
    (lexRun .none sql).1 ++ (lexRun .none sql).2.tokens = tokens := by
  have hclosed : ∀ pending : Pending, pending.isOpen = false →
      lexRun pending (text " ") = (pending.tokens, .none) := by
    intro pending hpending
    cases pending with
    | none => rfl
    | word cs => rfl
    | quoted quote content => cases hpending
  have hopen : ∀ pending : Pending,
      (lexRun pending (text " ")).2.isOpen = pending.isOpen := by
    intro pending
    cases pending <;> rfl
  rw [Spells, lexRun_append]
  constructor
  · intro h
    have hpending : (lexRun .none sql).2.isOpen = false := by
      rw [← hopen, (Prod.mk.inj h).2]
      rfl
    rw [hclosed _ hpending] at h
    exact ⟨hpending, (Prod.mk.inj h).1⟩
  · rintro ⟨hpending, rfl⟩
    rw [hclosed _ hpending]

/-- SQL that spells tokens is read as them. -/
theorem Spells.lex_eq (h : Spells sql tokens) : lex sql = tokens := by
  rw [lex, h]

/-! ## Laws of composition -/

/-- Empty SQL has no tokens. -/
theorem spells_nil : Spells [] [] := rfl

/-- SQL put together at a piece that completes what is pending. -/
theorem Spells.append_piece (ha : Spells a s) (hb : Spells b t) {piece : Piece}
    {middle : List Token} (hpiece : ∀ pending : Pending, pending.isOpen = false →
      lexStep pending piece = (pending.tokens ++ middle, .none)) :
    Spells (a ++ piece :: b) (s ++ middle ++ t) := by
  obtain ⟨hpending, hs⟩ := spells_iff.mp ha
  have hrest : lexRun .none (b ++ text " ") = (t, .none) := hb
  rw [Spells, List.append_assoc, lexRun_append, List.cons_append, lexRun, hpiece _ hpending, ← hs]
  simp only [hrest, List.append_assoc]

/-- SQL joined by a blank has the tokens of its parts. -/
theorem Spells.append_blank (ha : Spells a s) (hb : Spells b t) :
    Spells (a ++ text " " ++ b) (s ++ t) := by
  have hstep : ∀ pending : Pending, pending.isOpen = false →
      lexStep pending (.char ' ') = (pending.tokens ++ [], .none) := by
    intro pending hpending
    rw [List.append_nil]
    exact (lexStep_blank pending (by decide)).2 hpending
  have hspells := ha.append_piece hb hstep
  rw [List.append_nil] at hspells
  rw [List.append_assoc]
  exact hspells

/-- SQL joined by a sign has the tokens of its parts and, between them, the sign. -/
theorem Spells.append_sign (ha : Spells a s) (hb : Spells b t) {c : Char}
    (hblank : Text.isBlank c = false) (hsign : isSign c = true) :
    Spells (a ++ .char c :: b) (s ++ .sign c :: t) := by
  have hstep : ∀ pending : Pending, pending.isOpen = false →
      lexStep pending (.char c) = (pending.tokens ++ [.sign c], .none) := by
    intro pending hpending
    simp [lexStep_of_not_open hpending, lexPlain, hblank, hsign]
  have hspells := ha.append_piece hb hstep
  simpa using hspells

/-- Blanks at the end do not count. -/
theorem Spells.trimEnd (h : Spells sql tokens) : Spells (Sql.trimEnd sql) tokens := by
  have hsplit : Sql.trimEnd sql ++ sql.rtakeWhile Piece.isBlank = sql :=
    List.rdropWhile_append_rtakeWhile
  obtain ⟨hopen, hpending⟩ := lexRun_blanks (lexRun .none (Sql.trimEnd sql)).2
    fun piece hpiece => List.mem_rtakeWhile_imp hpiece
  obtain ⟨hclosed, htokens⟩ := spells_iff.mp h
  rw [← hsplit, lexRun_append] at hclosed htokens
  rw [spells_iff, ← htokens, ← hopen]
  refine ⟨hclosed, ?_⟩
  rw [List.append_assoc, hpending (hopen ▸ hclosed)]

/-! ## Words and quoted texts -/

/-- A character of a word: it is no blank, no sign and no quote. -/
def IsWordChar (c : Char) : Prop := Text.isBlank c = false ∧ isSign c = false ∧ quote? c = none

instance (c : Char) : Decidable (IsWordChar c) :=
  inferInstanceAs (Decidable (_ ∧ _ ∧ _))

/-- A word that has begun goes on with every further character of a word. -/
theorem lexRun_word {cs : List Char} (h : ∀ c ∈ cs, IsWordChar c) (front : List Char) :
    lexRun (.word front) (cs.map .char) = ([], .word (front ++ cs)) := by
  induction cs generalizing front with
  | nil => simp [lexRun]
  | cons c rest ih =>
    obtain ⟨hblank, hsign, hquote⟩ := h c (List.mem_cons_self ..)
    have hrest := ih (fun d hd => h d (List.mem_cons_of_mem _ hd)) (front ++ [c])
    simp [lexRun, lexStep, lexPlain, Pending.extended, hblank, hsign, hquote, hrest]

/-- A text of word characters is one word. -/
theorem spells_word {word : String} (hne : word ≠ "") (h : ∀ c ∈ word.toList, IsWordChar c) :
    (text word).Spells [.word word.toList] := by
  obtain ⟨c, rest, hchars⟩ := List.exists_cons_of_ne_nil (by simpa using hne : word.toList ≠ [])
  rw [hchars] at h
  obtain ⟨hblank, hsign, hquote⟩ := h c (List.mem_cons_self ..)
  have hrest := lexRun_word (fun d hd => h d (List.mem_cons_of_mem _ hd)) [c]
  rw [spells_iff, text, hchars]
  simp [lexRun, lexStep, lexPlain, Pending.extended, Pending.isOpen, Pending.tokens, hblank,
    hsign, hquote, hrest]

end Sql

end EntityMapping

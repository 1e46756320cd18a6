import EntityMapping.Dialect
import EntityMapping.Json.Reader

/-!
# Settings

The settings of a generation, given as a JSON document.  Both have a default; keys that are
no settings are refused.

Main results:

- `Settings.read_eq_ok_iff`: a document gives settings exactly when it is read without a
  fault.
-/

namespace EntityMapping

/-- The sequence of generated keys that name no generator. -/
def defaultSequenceName : String := "seq_mapper_derive"

/-- The dialect of the statements, and the sequence of keys that name no generator. -/
structure Settings where
  dialect : Dialect
  defaultSequence : String
deriving DecidableEq, Repr

namespace Settings

/-- The settings of an empty document. -/
def default : Settings := ⟨.postgres, defaultSequenceName⟩

/-- The settings that a document has given so far. -/
structure Draft where
  dialect? : Option Dialect
  defaultSequence? : Option String

/-- A dialect by name. -/
def readDialect : Json.Reader Dialect := fun cs => do
  let (name, rest) ← Json.readString cs
  match Dialect.ofText name with
  | .ok dialect => return (dialect, rest)
  | .error e => .error (.custom e.message)

/-- The record of the settings. -/
def record : Json.Record Draft :=
  { name := "PrecompilerConfig"
    fields :=
      [.slot "dialect" (·.dialect?) (fun s d => { s with dialect? := some d }) readDialect,
        .slot "default_sequence_name" (·.defaultSequence?)
          (fun s name => { s with defaultSequence? := some name }) Json.readString]
    start := ⟨none, none⟩
    strict := true
    short := true }

/-- The settings with the defaults for what a document leaves out. -/
def ofDraft (s : Draft) : Settings :=
  ⟨s.dialect?.getD default.dialect, s.defaultSequence?.getD default.defaultSequence⟩

/-- The settings that a document gives, or its first fault. -/
def readDocument (text : String) : Except Json.Fault Settings :=
  Json.document (record.read fun s => .ok (ofDraft s)) text

/-- The settings that a document gives. -/
def read (text : String) : Except MappingError Settings :=
  match readDocument text with
  | .ok s => .ok s
  | .error fault => .error (.invalidSettings fault.message)

/-- Settings are read exactly if the document is, for failures only get another cause. -/
theorem read_eq_ok_iff (text : String) (s : Settings) :
    read text = .ok s ↔ readDocument text = .ok s := by
  unfold read
  cases readDocument text <;> simp

end Settings

end EntityMapping

import EntityMapping.Declaration.Expansion
import EntityMapping.Declaration.Samples
import EntityMapping.Generation.Run
import EntityMapping.Params.Example
import EntityMapping.Params.Request
import EntityMapping.Result.Query
import EntityMapping.Settings
import EntityMapping.Declaration.Constant
import EntityMapping.Proofs.Run.Effect
import EntityMapping.Proofs.Run.Failure
import EntityMapping.Proofs.Engine.Evaluation
import EntityMapping.Proofs.Engine.Calls
import EntityMapping.Proofs.Search.Predicates
import EntityMapping.Proofs.Search.Ordering
import EntityMapping.Proofs.Search.Keys
import EntityMapping.Proofs.Search.Find
import EntityMapping.Proofs.Engine.Lexing
import EntityMapping.Proofs.Engine.Reading
import EntityMapping.Proofs.Search.Tokens
import EntityMapping.Proofs.Search.Precedence
import EntityMapping.Proofs.Columns.Levels
import EntityMapping.Proofs.Columns.Reading
import EntityMapping.Proofs.Columns.Flattening
import EntityMapping.Proofs.Engine.Listing
import EntityMapping.Proofs.Keys.Equalities
import EntityMapping.Proofs.Writing.Insert
import EntityMapping.Proofs.Keys.Rows
import EntityMapping.Proofs.Keys.Addressing
import EntityMapping.Proofs.Columns.RoundTrip
import EntityMapping.Proofs.Columns.KeyColumns
import EntityMapping.Proofs.Search.Sorting
import EntityMapping.Proofs.Engine.Splicing
import EntityMapping.Proofs.Run.StaticStatements
import EntityMapping.Proofs.Search.Interpolation
import EntityMapping.Proofs.Search.ByExample
import EntityMapping.Proofs.Run.Dependence
import EntityMapping.Proofs.Xml.ColumnMap
import EntityMapping.Proofs.Xml.Markup
import EntityMapping.Proofs.Xml.Printing
import EntityMapping.Proofs.Xml.Document
import EntityMapping.Proofs.Xml.Exactness
import EntityMapping.Proofs.Xml.Survival
import EntityMapping.Proofs.Run.Repetition
import EntityMapping.Proofs.Run.Interleaving
import EntityMapping.Proofs.Engine.Mentions
import EntityMapping.Proofs.Run.Linking
import EntityMapping.Proofs.Declaration.Attributes
import EntityMapping.Proofs.Declaration.Fields
import EntityMapping.Proofs.Declaration.Acceptance
import EntityMapping.Proofs.Search.Paging
import EntityMapping.Proofs.Search.PatternNames
import EntityMapping.Proofs.Search.Guarding
import EntityMapping.Proofs.Json.Grammar
import EntityMapping.Proofs.Json.Records
import EntityMapping.Proofs.Json.Parameters
import EntityMapping.Proofs.Declaration.Nesting
import EntityMapping.Proofs.Declaration.Scribes
import EntityMapping.Proofs.Declaration.TypePhrases
import EntityMapping.Proofs.Declaration.ExpressionPhrases
import EntityMapping.Proofs.Declaration.ChainReading
import EntityMapping.Proofs.Declaration.Expansion
import EntityMapping.Proofs.Search.Grammar
import EntityMapping.Proofs.Search.GivenIds
import EntityMapping.Proofs.Run.Degeneracy
import EntityMapping.Proofs.Xml.Injectivity
import EntityMapping.Proofs.Writing.Sequences
import EntityMapping.Proofs.Writing.GeneratedKeys
import EntityMapping.Proofs.Writing.ReadBack
import EntityMapping.Proofs.Result.Conversion
import EntityMapping.Proofs.Declaration.Vocabulary
import EntityMapping.Proofs.Declaration.FieldNames
import EntityMapping.Proofs.Result.RowViews
import EntityMapping.Proofs.Params.Changes
import EntityMapping.Proofs.Run.QualifiedIds
import EntityMapping.Proofs.Settings
import EntityMapping.Proofs.Xml.Escaping
import EntityMapping.Proofs.Columns.KeyViews
import EntityMapping.Proofs.Columns.Paths
import EntityMapping.Proofs.Xml.TemplateReader
import EntityMapping.Proofs.Engine.Equivalence
import EntityMapping.Proofs.Xml.Legibility

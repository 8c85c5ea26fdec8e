import SqlQuery.Rendering
import SqlQuery.Session
import SqlQuery.Proofs.Survival
import SqlQuery.Proofs.Transcript
import SqlQuery.Proofs.WrittenValue
import SqlQuery.Proofs.FragmentTranscript
import SqlQuery.Proofs.FromLayout
import SqlQuery.Proofs.WellQuoted
import SqlQuery.Proofs.DraftTexts
import SqlQuery.Proofs.Confinement
import SqlQuery.Proofs.Coherence
import SqlQuery.Proofs.TableTexts
import SqlQuery.Proofs.StoredCounts
import SqlQuery.Proofs.SlotRange
import SqlQuery.Proofs.NamedTables
import SqlQuery.Proofs.ReferenceCounts
import SqlQuery.Proofs.LegibleFragments
import SqlQuery.Proofs.CountedRendering
import SqlQuery.Proofs.DistinctAliases
import SqlQuery.Proofs.TableEdits
import SqlQuery.Proofs.AliasStability
import SqlQuery.Proofs.DeclaredTables
import SqlQuery.Proofs.UpsertDecision
import SqlQuery.Proofs.PrintedEqualities
import SqlQuery.Proofs.JoinOrder
import SqlQuery.Proofs.ColumnGrammar
import SqlQuery.Proofs.WrittenColumn
import SqlQuery.Proofs.WellFormedDraft
import SqlQuery.Proofs.StatementVerb
import SqlQuery.Proofs.TextReader
import SqlQuery.Proofs.InsertionReading
import SqlQuery.Proofs.AliasChoice
import SqlQuery.Proofs.UnmentionedTable
import SqlQuery.Proofs.ClauseOrder
import SqlQuery.Proofs.Execution
import SqlQuery.Proofs.IntroducedNames
import SqlQuery.Proofs.PrintedKeys
import SqlQuery.Proofs.TableListHeads
import SqlQuery.Proofs.PaddedNames
import SqlQuery.Proofs.PaddedStatement
import SqlQuery.Proofs.PatternMatching
import SqlQuery.Proofs.NestedConditions
import SqlQuery.Proofs.PrintedLeaves
import SqlQuery.Proofs.ColumnReading
import SqlQuery.Proofs.CallArguments
import SqlQuery.Proofs.EnclosedSubquery
import SqlQuery.Proofs.InsertedTuples
import SqlQuery.Proofs.ResultShapes
import SqlQuery.Proofs.QuotedLiterals
import SqlQuery.Proofs.ListPieces
import SqlQuery.Proofs.ListArguments
import SqlQuery.Proofs.AddedConditions
import SqlQuery.Proofs.AliasSearch
import SqlQuery.Proofs.RowHistory

import Reshape.Proofs.Batches
import Reshape.Proofs.CallObjects
import Reshape.Proofs.CatalogCalls
import Reshape.Proofs.Comparability
import Reshape.Proofs.ComparisonSigns
import Reshape.Proofs.Composition
import Reshape.Proofs.Computations
import Reshape.Proofs.DistinctItems
import Reshape.Proofs.DocumentGrammar
import Reshape.Proofs.EmbeddedScalars
import Reshape.Proofs.ErrorPlaces
import Reshape.Proofs.FailingNodes
import Reshape.Proofs.GrammarReader
import Reshape.Proofs.IndexNames
import Reshape.Proofs.IntegerArithmetic
import Reshape.Proofs.IntegerPowers
import Reshape.Proofs.IntegerSums
import Reshape.Proofs.IntegerTexts
import Reshape.Proofs.JoinedPieces
import Reshape.Proofs.KeptIntegers
import Reshape.Proofs.Layout
import Reshape.Proofs.LiteralGrammar
import Reshape.Proofs.LiteralShape
import Reshape.Proofs.LoadedTables
import Reshape.Proofs.LookupRoutes
import Reshape.Proofs.MergedIntegers
import Reshape.Proofs.Mirroring
import Reshape.Proofs.NamedOperations
import Reshape.Proofs.NearestDecimals
import Reshape.Proofs.NearestIntegers
import Reshape.Proofs.NestedRecords
import Reshape.Proofs.NullPropagation
import Reshape.Proofs.NumberOrder
import Reshape.Proofs.NumeralTexts
import Reshape.Proofs.Occurrences
import Reshape.Proofs.Outcomes
import Reshape.Proofs.PathComposition
import Reshape.Proofs.PathGrammar
import Reshape.Proofs.PathLevels
import Reshape.Proofs.Progress
import Reshape.Proofs.ReachedRecords
import Reshape.Proofs.Registrations
import Reshape.Proofs.RemovedRepeats
import Reshape.Proofs.RenderedValues
import Reshape.Proofs.Repetition
import Reshape.Proofs.RoundedIntegers
import Reshape.Proofs.RoundedResults
import Reshape.Proofs.RunningTotals
import Reshape.Proofs.SamePaths
import Reshape.Proofs.SequenceEnds
import Reshape.Proofs.ShiftedPlaces
import Reshape.Proofs.SortableItems
import Reshape.Proofs.SourceReads
import Reshape.Proofs.StableSorting
import Reshape.Proofs.StandardRegistry
import Reshape.Proofs.StringTexts
import Reshape.Proofs.SubstringSearches
import Reshape.Proofs.TemplateNodes
import Reshape.Proofs.Termination
import Reshape.Proofs.ValueGrammar
import Reshape.Proofs.ValueOrder
import Reshape.Proofs.ValueParts
import Reshape.Proofs.WholeArguments
import Reshape.Proofs.WideIntegers
import Reshape.Proofs.WrittenPaths
import Reshape.Shape
import Reshape.Standard

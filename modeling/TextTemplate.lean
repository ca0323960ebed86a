import TextTemplate.Filter.Catalog
import TextTemplate.Main
import TextTemplate.Node.Print
import TextTemplate.Node.TokenReader
import TextTemplate.Session
import TextTemplate.Proofs.Grammar
import TextTemplate.Proofs.Unambiguity
import TextTemplate.Proofs.Acceptance
import TextTemplate.Proofs.Nesting
import TextTemplate.Proofs.RoundTrip
import TextTemplate.Proofs.CacheTransparency
import TextTemplate.Proofs.CacheHistory
import TextTemplate.Proofs.Segments
import TextTemplate.Proofs.Faults
import TextTemplate.Proofs.ErrorPlaces
import TextTemplate.Proofs.Placeless
import TextTemplate.Proofs.Seams
import TextTemplate.Proofs.Concatenation
import TextTemplate.Proofs.TokenPlaces
import TextTemplate.Proofs.EarliestFault
import TextTemplate.Proofs.ActiveEvaluations
import TextTemplate.Proofs.ParsedNodes
import TextTemplate.Proofs.Occurrences
import TextTemplate.Proofs.EvaluationCourse
import TextTemplate.Proofs.FilterCalls
import TextTemplate.Proofs.NamesRead
import TextTemplate.Proofs.Writing
import TextTemplate.Proofs.ReachedFilters
import TextTemplate.Proofs.ConfigLoading
import TextTemplate.Proofs.BuiltInFailures
import TextTemplate.Proofs.OrChains
import TextTemplate.Proofs.StringLiterals
import TextTemplate.Proofs.BlankInsertion
import TextTemplate.Proofs.VariablePrecedence
import TextTemplate.Proofs.RenderCommand
import TextTemplate.Proofs.LargerLimits
import TextTemplate.Proofs.AssignedEntries
import TextTemplate.Proofs.Coercion
import TextTemplate.Proofs.MergedKeys
import TextTemplate.Proofs.DocumentRoots
import TextTemplate.Proofs.CaseMapping
import TextTemplate.Proofs.JsonText
import TextTemplate.Proofs.NodeRecords
import TextTemplate.Proofs.SchemaBuild
import TextTemplate.Proofs.FilterRegistration
import TextTemplate.Proofs.JoinedLeaves
import TextTemplate.Proofs.ReaderRuns
import TextTemplate.Proofs.ReaderCounts

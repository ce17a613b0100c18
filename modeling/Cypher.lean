import Cypher.Main
import Cypher.Workspace
import Cypher.Proofs.Lexing
import Cypher.Proofs.Spacing
import Cypher.Proofs.Tidy
import Cypher.Proofs.Asking
import Cypher.Proofs.Nesting
import Cypher.Proofs.RawTexts
import Cypher.Proofs.TidyDrafts
import Cypher.Proofs.References
import Cypher.Proofs.CoveredDrafts
import Cypher.Proofs.FreshPayload
import Cypher.Proofs.CompiledReferences
import Cypher.Proofs.Filling
import Cypher.Proofs.Likeness
import Cypher.Proofs.AlikeDrafts
import Cypher.Proofs.Blindness
import Cypher.Proofs.GivenNames
import Cypher.Proofs.Skeleton
import Cypher.Proofs.Rendering
import Cypher.Proofs.RenderedDrafts
import Cypher.Proofs.Atomicity
import Cypher.Proofs.AllocatorRuns
import Cypher.Proofs.ReferenceReading
import Cypher.Proofs.Incremental
import Cypher.Proofs.Backing
import Cypher.Proofs.SharedAllocators
import Cypher.Proofs.SessionRuns
import Cypher.Proofs.Templates
import Cypher.Proofs.Requirements
import Cypher.Proofs.Reserving
import Cypher.Proofs.PlacedConditions
import Cypher.Proofs.Hygiene
import Cypher.Proofs.SplitCriteria
import Cypher.Proofs.Respacing
import Cypher.Proofs.SameAllocator
import Cypher.Proofs.NestedStatements
import Cypher.Proofs.PayloadForms
import Cypher.Proofs.PayloadObjects
import Cypher.Proofs.ClauseObjects
import Cypher.Proofs.Surroundings
import Cypher.Proofs.StrictPayloads
import Cypher.Proofs.SpacedPieces
import Cypher.Proofs.WrittenNames
import Cypher.Proofs.RefusedPatterns
import Cypher.Proofs.InlineValues
import Cypher.Proofs.FieldOrder
import Cypher.Proofs.AgreeingObjects
import Cypher.Proofs.ReorderedPayloads
import Cypher.Proofs.GrowingStatements
import Cypher.Proofs.AlternatingPaths
import Cypher.Proofs.InlineKeys
import Cypher.Proofs.HopRanges
import Cypher.Proofs.GivenConditions
import Cypher.Proofs.NameOrder
import Cypher.Proofs.ProperJson
import Cypher.Proofs.ExactValues
import Cypher.Proofs.EmptyBodies
import Cypher.Proofs.Numerals
import Cypher.Proofs.ExactCounts
import Cypher.Proofs.StricterPayloads
import Cypher.Proofs.ProjectedItems
import Cypher.Proofs.WrittenJson
import Cypher.Proofs.PrintedQueries
import Cypher.Proofs.TemporalTexts
import Cypher.Proofs.Instants
import Cypher.Proofs.FewestSuffixes

import ComponentDirective.Session
import ComponentDirective.Proofs.Interleaving
import ComponentDirective.Proofs.Schedules
import ComponentDirective.Proofs.Overlap
import ComponentDirective.Proofs.Discovered
import ComponentDirective.Proofs.Extraction
import ComponentDirective.Proofs.Failures
import ComponentDirective.Proofs.StoreInvariant
import ComponentDirective.Proofs.ClosedHosts
import ComponentDirective.Proofs.StoreRuns
import ComponentDirective.Proofs.ValidDirectives
import ComponentDirective.Proofs.Validation
import ComponentDirective.Proofs.StoreHistory
import ComponentDirective.Proofs.ScopePlaces
import ComponentDirective.Proofs.SubstitutedMarkers
import ComponentDirective.Proofs.DirectiveContents
import ComponentDirective.Proofs.EmbeddedHosts
import ComponentDirective.Proofs.UsedUpNumbers
import ComponentDirective.Proofs.IdleChanges
import ComponentDirective.Proofs.Renumbering
import ComponentDirective.Proofs.AppendedMarkers
import ComponentDirective.Proofs.ExtractionJournal
import ComponentDirective.Proofs.RunJournal
import ComponentDirective.Proofs.SpelledNumerals
import ComponentDirective.Proofs.TokenLayouts
import ComponentDirective.Proofs.WrittenTokens
import ComponentDirective.Proofs.SnapshotTexts
import ComponentDirective.Proofs.RewrittenDirectives
import ComponentDirective.Proofs.ExtractionReports
import ComponentDirective.Proofs.ExtractionFailures
import ComponentDirective.Proofs.ListFields
import ComponentDirective.Proofs.ScopeAnswers
import ComponentDirective.Proofs.DiscoveredRequests
import ComponentDirective.Proofs.RequestCounts
import ComponentDirective.Proofs.QualifiedNames
import ComponentDirective.Proofs.OptionsReader
import ComponentDirective.Proofs.OptionsDocuments
import ComponentDirective.Proofs.WrittenMarkers
import ComponentDirective.Proofs.DiagnosticLines
import ComponentDirective.Proofs.Attribution
import ComponentDirective.Proofs.UsedUpNumbers

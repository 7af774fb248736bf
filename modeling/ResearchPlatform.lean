import ResearchPlatform.Agents.Sentences
import ResearchPlatform.Application.Markdown
import ResearchPlatform.Foundation.FileTree
import ResearchPlatform.Foundation.Lines
import ResearchPlatform.Foundation.Regex
import ResearchPlatform.Mcp.EvidenceServer
import ResearchPlatform.Mcp.ReadableText
import ResearchPlatform.Mcp.WorkspaceListing
import ResearchPlatform.Properties.AllOrNothing
import ResearchPlatform.Properties.ApprovalBinding
import ResearchPlatform.Properties.ArtifactKeys
import ResearchPlatform.Properties.AtLeastOnce
import ResearchPlatform.Properties.BudgetLedgers
import ResearchPlatform.Properties.BudgetOvershoot
import ResearchPlatform.Properties.CapabilityDiscovery
import ResearchPlatform.Properties.CircuitOpening
import ResearchPlatform.Properties.CitationRule
import ResearchPlatform.Properties.CleanReports
import ResearchPlatform.Properties.CorrectionLoops
import ResearchPlatform.Properties.CredentialRedaction
import ResearchPlatform.Properties.DerivedFindings
import ResearchPlatform.Properties.DigestBinding
import ResearchPlatform.Properties.EvidenceHashes
import ResearchPlatform.Properties.EvidenceProvenance
import ResearchPlatform.Properties.ExecutionOrder
import ResearchPlatform.Properties.Footnotes
import ResearchPlatform.Properties.JobUpdates
import ResearchPlatform.Properties.ListedDocuments
import ResearchPlatform.Properties.ManifestDisclosure
import ResearchPlatform.Properties.OutboundFetches
import ResearchPlatform.Properties.PipelineLands
import ResearchPlatform.Properties.PlanValidation
import ResearchPlatform.Properties.PolicyAgreement
import ResearchPlatform.Properties.PolicyFailsClosed
import ResearchPlatform.Properties.PolicyVersions
import ResearchPlatform.Properties.RateWindow
import ResearchPlatform.Properties.ReadableText
import ResearchPlatform.Properties.RepositoriesAgree
import ResearchPlatform.Properties.ResponsesContained
import ResearchPlatform.Properties.RetrievedEvidence
import ResearchPlatform.Properties.ReviewRouting
import ResearchPlatform.Properties.ReviewSignals
import ResearchPlatform.Properties.SanitizedResults
import ResearchPlatform.Properties.SharedCircuits
import ResearchPlatform.Properties.SourceReread
import ResearchPlatform.Properties.StoredOnce
import ResearchPlatform.Properties.TenantIsolation
import ResearchPlatform.Properties.UrlRefusal
import ResearchPlatform.Properties.VerifiedClaims
import ResearchPlatform.Properties.SandboxJobs
import ResearchPlatform.Properties.CalculationOutput
import ResearchPlatform.Properties.PodIsolation
import ResearchPlatform.Properties.SandboxContainers
import ResearchPlatform.Properties.ReviewAuthority
import ResearchPlatform.Properties.AuthenticatedReviews
import ResearchPlatform.Properties.TokenFreshness
import ResearchPlatform.Properties.SqlExecution

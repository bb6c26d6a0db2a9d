import GraphAgent.AgentFinalText
import GraphAgent.BackgroundEffects
import GraphAgent.BoundedJson
import GraphAgent.CarrierCalls
import GraphAgent.CatalogDeletion
import GraphAgent.CatalogSubtrees
import GraphAgent.ChunkedText
import GraphAgent.CommunicationExactlyOnce
import GraphAgent.ConfigRuns
import GraphAgent.ContextSourceRetention
import GraphAgent.ExecutionFencing
import GraphAgent.FanoutRuns
import GraphAgent.FederationRequests
import GraphAgent.NavigationDependencyFailure
import GraphAgent.NavigationReplays
import GraphAgent.OutboxLives
import GraphAgent.OutboxReceipts
import GraphAgent.PatchAgreement
import GraphAgent.PatchDiffs
import GraphAgent.PatchTermination
import GraphAgent.PathLockRuns
import GraphAgent.PendingMessageRestores
import GraphAgent.PrefixEpochInheritance
import GraphAgent.ReasoningMergeOrder
import GraphAgent.ResourceLeaseRuns
import GraphAgent.ResourceUriIdentity
import GraphAgent.RolloutReconciliation
import GraphAgent.RolloutRuns
import GraphAgent.StreamFinality
import GraphAgent.StreamMirrorRuns
import GraphAgent.StreamOpening
import GraphAgent.TerminalDelivery
import GraphAgent.TextMutationTruth
import GraphAgent.ToolAttemptSafety
import GraphAgent.ToolCallRouting
import GraphAgent.ToolProtocolClosure

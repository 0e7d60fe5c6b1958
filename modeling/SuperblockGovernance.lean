import SuperblockGovernance.Host.Fixture
import SuperblockGovernance.Json.Identifiers
import SuperblockGovernance.Json.Printer
import SuperblockGovernance.Main
import SuperblockGovernance.Proofs.AcceptedBlocks
import SuperblockGovernance.Proofs.AmountTexts
import SuperblockGovernance.Proofs.ApprovedPayouts
import SuperblockGovernance.Proofs.BlockTemplates
import SuperblockGovernance.Proofs.CanonicalTexts
import SuperblockGovernance.Proofs.CarriedContracts
import SuperblockGovernance.Proofs.CoinbaseAcceptance
import SuperblockGovernance.Proofs.Confirmations
import SuperblockGovernance.Proofs.ContractTexts
import SuperblockGovernance.Proofs.CreatedObjects
import SuperblockGovernance.Proofs.DeletionVotes
import SuperblockGovernance.Proofs.Elections
import SuperblockGovernance.Proofs.EngineDeeds
import SuperblockGovernance.Proofs.EngineRuns
import SuperblockGovernance.Proofs.ExtraContributions
import SuperblockGovernance.Proofs.FailedCreations
import SuperblockGovernance.Proofs.GossipMessages
import SuperblockGovernance.Proofs.HandedObjects
import SuperblockGovernance.Proofs.HexadecimalTexts
import SuperblockGovernance.Proofs.InboundMessages
import SuperblockGovernance.Proofs.JsonLiterals
import SuperblockGovernance.Proofs.JsonSizes
import SuperblockGovernance.Proofs.JsonTexts
import SuperblockGovernance.Proofs.KeptAssessments
import SuperblockGovernance.Proofs.LocalFingerprints
import SuperblockGovernance.Proofs.PayoutTexts
import SuperblockGovernance.Proofs.PlanLimits
import SuperblockGovernance.Proofs.PlanRounding
import SuperblockGovernance.Proofs.PlanTotals
import SuperblockGovernance.Proofs.PlannedStances
import SuperblockGovernance.Proofs.PrescribedPlans
import SuperblockGovernance.Proofs.PriceTexts
import SuperblockGovernance.Proofs.PublishedContracts
import SuperblockGovernance.Proofs.QualifyingRecords
import SuperblockGovernance.Proofs.QueueDeliveries
import SuperblockGovernance.Proofs.QuoteTexts
import SuperblockGovernance.Proofs.ReceivedObjects
import SuperblockGovernance.Proofs.RetractedVotes
import SuperblockGovernance.Proofs.SectionTexts
import SuperblockGovernance.Proofs.SettingPassages
import SuperblockGovernance.Proofs.SettlingTicks
import SuperblockGovernance.Proofs.SignedOctets
import SuperblockGovernance.Proofs.SortedMaps
import SuperblockGovernance.Proofs.SporkTexts
import SuperblockGovernance.Proofs.SporkWinners
import SuperblockGovernance.Proofs.SpreadVotes
import SuperblockGovernance.Proofs.StoreCoherence
import SuperblockGovernance.Proofs.StoredObjects
import SuperblockGovernance.Proofs.SubmissionLimits
import SuperblockGovernance.Proofs.SubmittedTotals
import SuperblockGovernance.Proofs.SuperblockHeights
import SuperblockGovernance.Proofs.TickEffects
import SuperblockGovernance.Proofs.TickReports
import SuperblockGovernance.Proofs.TriggerTexts
import SuperblockGovernance.Proofs.TriggeredContracts
import SuperblockGovernance.Proofs.UndeliveredMessages
import SuperblockGovernance.Proofs.VoteConvergence
import SuperblockGovernance.Proofs.VoteOrigins
import SuperblockGovernance.Proofs.VotePlans
import SuperblockGovernance.Proofs.VoteRegisters
import SuperblockGovernance.Proofs.VoteTallies
import SuperblockGovernance.Proofs.WatchedRelays
import SuperblockGovernance.Proofs.WireForms
import SuperblockGovernance.Rpc

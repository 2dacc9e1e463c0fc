import KucoinPro.GuardedRuns
import KucoinPro.History
import KucoinPro.TextParts
import KucoinPro.Throttle
import KucoinPro.AccountSystem
import KucoinPro.DropCopyMoves
import KucoinPro.OrderEntryRestMoves
import KucoinPro.AccountMoves
import KucoinPro.SnapshotSoundness
import KucoinPro.SessionSnapshots
import KucoinPro.SubscriptionAcks
import KucoinPro.RequestService
import KucoinPro.OrderOutcome
import KucoinPro.OrderEntryWs
import KucoinPro.OrderReadiness
import KucoinPro.OpenOrderPages
import KucoinPro.TokenDownload
import KucoinPro.TokenRenewal
import KucoinPro.StaleOrderQueries
import KucoinPro.StaleOrderBatches
import KucoinPro.StaleOrderDownload
import KucoinPro.Parser
import KucoinPro.ErrorMessages
import KucoinPro.Slices
import KucoinPro.Market
import KucoinPro.MarketData
import KucoinPro.UnknownEvents
import KucoinPro.MarketSystem
import KucoinPro.MarketMoves
import KucoinPro.StreamSubscriptions
import KucoinPro.SubscriptionQueue
import KucoinPro.OrderBooks
import KucoinPro.SnapshotRequests
import KucoinPro.SequencerIsolation
import KucoinPro.Rest
import KucoinPro.SymbolDownload
import KucoinPro.SymbolDistribution
import KucoinPro.JsonText
import KucoinPro.OrderEncoding
import KucoinPro.OrderFidelity
import KucoinPro.OrderMessages
import KucoinPro.Timestamps
import KucoinPro.SignedRequests
import KucoinPro.SignedTexts
import KucoinPro.MemberOrder
import KucoinPro.OrderReplies
import KucoinPro.SupersededResponses
import KucoinPro.Watchdog
import KucoinPro.LogonWatchdogs
import KucoinPro.StaleOrderFlights
import KucoinPro.Metering
import KucoinPro.RateLimits
import KucoinPro.CancelAll
import KucoinPro.Pacing
import KucoinPro.PingPacing
import KucoinPro.ControllerSystem
import KucoinPro.ControllerMoves
import KucoinPro.AccountRefinement
import KucoinPro.Serials
import KucoinPro.SubscriptionNumbers
import KucoinPro.StreamIds
import KucoinPro.SubscriptionIds
import KucoinPro.EffectCauses
import KucoinPro.OrderFlow
import KucoinPro.OrderLedger
import KucoinPro.Publications
import KucoinPro.RequestRouting
import KucoinPro.Protocols
import KucoinPro.TokenProtocol
import KucoinPro.MarketPublications
import KucoinPro.SymbolBooks
import KucoinPro.DepthRequests
import KucoinPro.ReferenceDownload
import KucoinPro.SessionSubscriptions
import KucoinPro.ProcessEnds
import KucoinPro.Recovery

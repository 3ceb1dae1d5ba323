import LoveApi.Proofs.SubscriptionGroup
import LoveApi.Proofs.SubscriptionOrder
import LoveApi.Proofs.UsageLedger
import LoveApi.Proofs.TopUpCredit
import LoveApi.Proofs.EpayNotify
import LoveApi.Proofs.WalletSafety
import LoveApi.Proofs.LostUpdates
import LoveApi.Proofs.PreConsumeOnce
import LoveApi.Proofs.MidjourneyRuns
import LoveApi.Proofs.SelectionAgreement
import LoveApi.Proofs.ClaudeUsage
import LoveApi.Proofs.ClaudeStream
import LoveApi.Proofs.GeminiRequest
import LoveApi.Proofs.GeminiStream
import LoveApi.Proofs.ModelMapping
import LoveApi.Proofs.Realtime
import LoveApi.Proofs.UsageConventions
import LoveApi.Proofs.TaskSettlement
import LoveApi.Proofs.OrderLock
import LoveApi.Proofs.BatchUpdate
import LoveApi.Proofs.ModelRateLimit
import LoveApi.Proofs.TokenBucket
import LoveApi.Proofs.GroupOrder
import LoveApi.Proofs.UsageData
import LoveApi.Proofs.CacheCoherence
import LoveApi.Proofs.Abilities
import LoveApi.Proofs.SsrfProtection
import LoveApi.Proofs.TwoFactor
import LoveApi.Proofs.GeminiText
import LoveApi.Proofs.StreamRelay
import LoveApi.Proofs.ChannelAffinity
import LoveApi.Proofs.SundaySearch
import LoveApi.Proofs.BodyStorage
import LoveApi.Proofs.ResponsesStream

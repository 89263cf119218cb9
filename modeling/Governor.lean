import Governor.Core.Table
import Governor.Core.Transaction
import Governor.Core.Run
import Governor.Core.Json
import Governor.Core.JsonText
import Governor.Core.JsonOrder
import Governor.Core.PyString
import Governor.Core.JsonInjective
import Governor.Core.HashChain
import Governor.Core.Regex
import Governor.Core.SlidingWindow
import Governor.Core.TokenBucket
import Governor.Ledger.Money
import Governor.Ledger.Schema
import Governor.Ledger.Seal
import Governor.Ledger.Attribution
import Governor.Ledger.Reserve
import Governor.Ledger.Settlement
import Governor.Ledger.Sweeper
import Governor.Ledger.Machine
import Governor.Ledger.Effects
import Governor.Ledger.System
import Governor.Ledger.Refinement
import Governor.Ledger.Conservation
import Governor.Ledger.Scopes
import Governor.Ledger.Idempotency
import Governor.Ledger.History
import Governor.Ledger.Steady
import Governor.Ledger.Calls
import Governor.Ledger.Atomic
import Governor.Ledger.Dispatch
import Governor.Ledger.Timestamps
import Governor.Ledger.Routing
import Governor.Ledger.Loops
import Governor.Ledger.Replay
import Governor.Chain.Verify
import Governor.Chain.Log
import Governor.Chain.Append
import Governor.Chain.Tamper
import Governor.Chain.Incremental
import Governor.Chain.Checkpoint
import Governor.Chain.Retention
import Governor.Chain.Growth
import Governor.Chain.AdminAudit
import Governor.Operations.Probe
import Governor.Operations.Limiter
import Governor.Operations.Window
import Governor.Operations.Bucket
import Governor.Operations.Inflight
import Governor.Operations.Breaker
import Governor.Gateway.Dispatch
import Governor.Gateway.Outcome
import Governor.Finance.Schema
import Governor.Finance.Crystal
import Governor.Finance.Commit
import Governor.Finance.System
import Governor.Finance.Machine
import Governor.Finance.Refinement
import Governor.Finance.Adapter
import Governor.Finance.Lifecycle
import Governor.Finance.Exposure
import Governor.Finance.PolicyCap
import Governor.Finance.Expiry
import Governor.Finance.Platform
import Governor.Finance.AlgoFreeze
import Governor.Finance.CreditGovern
import Governor.Finance.AssetLedger
import Governor.Finance.Depreciation
import Governor.Finance.Amounts
import Governor.Finance.Subledger
import Governor.Finance.CrystalChain
import Governor.Finance.Fleet
import Governor.Finance.Drift
import Governor.Finance.Standalone
import Governor.Sector.Events
import Governor.Sector.Spine
import Governor.Sector.Refinement
import Governor.Sector.Platform
import Governor.Sector.Bound
import Governor.Sector.Opening
import Governor.Sector.Covered
import Governor.Sector.Security
import Governor.Sector.Posture
import Governor.Sector.Chain
import Governor.Sector.PolicyRules
import Governor.Sector.Payments
import Governor.Sector.Payouts
import Governor.Sector.Fnol
import Governor.Sector.FraudSignals
import Governor.Sector.Subrogation
import Governor.Sector.ThreatScore
import Governor.Sector.Oracle
import Governor.Sector.Redaction
import Governor.Sector.EgressHost
import Governor.Sector.Inflight
import Governor.Sector.Retry
import Governor.Ledger.Summary
import Governor.Finance.Collision
import Governor.Finance.Fingerprint
import Governor.Sector.Audit
import Governor.Core.KeyStore
import Governor.Core.FixedWindow
import Governor.Operations.Guardrails
import Governor.Operations.RateLimit
import Governor.Operations.SharedInflight
import Governor.Operations.SharedBreaker
import Governor.Finance.Decimals
import Governor.Finance.Rehash
import Governor.Finance.Mirrors
import Governor.Core.ChainScan
import Governor.Finance.Steady
import Governor.Finance.DecisionChain
import Governor.Operations.TraceDepth
import Governor.Core.Retry
import Governor.Finance.AtMostOnce
import Governor.Finance.Anchors

import Mathlib
import Governor.Core.Table
import Governor.Core.Transaction
import Governor.Core.Json
import Governor.Ledger.Schema

/-!
# The Finance Governor schema

Tables of the finance spine as the migrations leave them, with the columns that the modelled
code reads or writes and some code reads again; `updated_at`, `expires_at` and the like are
left out. `account_ledgers` is modelled by its `exposure` rows in USD, the only ones that the
spine touches. The `CHECK` and `REFERENCES` constraints that a request can violate raise as in
the database.
-/

namespace Governor.Finance

open Ledger (Timestamp Hash Decimal Money)

/-! ## Enumerations -/

/-- `commit_status`; the migrations' `ADJUDICATED` is written by no code. -/
inductive CommitStatus where
  | crystallized | inFlight | actionTimeout | committed | expired | stranded
  deriving DecidableEq, Repr

/-- The values of `governance_crystals.terminal_state`. -/
inductive TerminalState where
  | committed | stranded | expired
  deriving DecidableEq, Repr

/-- The escrow status that a terminal state comes with. -/
def TerminalState.status : TerminalState → CommitStatus
  | .committed => .committed
  | .stranded => .stranded
  | .expired => .expired

/-- The `event_type` values that the spine writes. -/
inductive DecisionType where
  | crystalCreated | committedFinal | strandedHold | horizonExpired | driftTolerated
  | driftEnforced
  deriving DecidableEq, Repr

/-- The event type as the database spells it. -/
def DecisionType.text : DecisionType → String
  | .crystalCreated => "CRYSTAL_CREATED"
  | .committedFinal => "COMMITTED_FINAL"
  | .strandedHold => "STRANDED_HOLD"
  | .horizonExpired => "HORIZON_EXPIRED"
  | .driftTolerated => "DRIFT_TOLERATED"
  | .driftEnforced => "DRIFT_ENFORCED"

/-! ## Rows -/

/-- An `exposure` row of `account_ledgers` in USD. -/
structure Account where
  accountId : String
  balance : Money
  active : Bool
  lockReason : Option String
  lockedAt : Option Timestamp

/-- A row of `instrument_policy_registry`. -/
structure InstrumentPolicy where
  policyId : String
  riskClassification : String
  maxExposurePerCommit : Money
  commitHorizonMs : Int
  allowAutoExpire : Bool
  enabled : Bool

/-- `facet_schema`: the required facets and the types of known ones. -/
structure FacetSchema where
  required : List String
  properties : List (String × String)

/-- A row of `platform_registry`. -/
structure PlatformRecord where
  platformName : String
  enabled : Bool
  defaultPolicyId : Option String
  /-- `None` stands for the empty schema. -/
  facetSchema : Option FacetSchema

/-- The facets of a crystal, a dict. -/
abbrev Facets := List (String × Json)

/-- A row of `governance_crystals`. -/
structure CrystalRow where
  crystalId : String
  platform : String
  operationId : String
  riskTier : String
  policyId : Option String
  facets : Facets
  requestFingerprint : Hash
  crystalHash : Hash
  prevCrystalHash : Option Hash
  parentCrystalId : Option String
  horizonExpiresAt : Timestamp
  terminalState : Option TerminalState
  crystallizedAt : Timestamp

/-- A row of `commit_escrow_ledger`. -/
structure EscrowRow where
  operationId : String
  crystalId : String
  accountId : String
  platform : String
  reservedExposure : Money
  committedExposure : Money
  status : CommitStatus
  terminalReason : Option String

/-- A row of `decision_events`. -/
structure DecisionEvent where
  eventId : Int
  operationId : String
  crystalId : Option String
  accountId : String
  eventType : String
  exposureDelta : Money
  metadata : Json
  recordedAt : Timestamp
  prevHash : Option Hash
  rowHash : Hash

/-- A row of `crystal_mesh_rules`. -/
structure MeshRule where
  parentPlatform : String
  parentFacetKey : String
  parentFacetValue : String
  childPlatform : String
  blockCommit : Bool
  enabled : Bool

/-- A row of `guardrail_incidents`. -/
structure GuardrailIncident where
  operationId : String
  crystalId : String
  incidentType : String
  platform : String
  metadata : Json

/-- The tables of one database. -/
structure Database where
  accountLedgers : Table Account.accountId
  instrumentPolicyRegistry : Table InstrumentPolicy.policyId
  /-- `None` when the table does not exist. -/
  platformRegistry : Option (Table PlatformRecord.platformName)
  governanceCrystals : Table CrystalRow.crystalId
  commitEscrowLedger : Table EscrowRow.operationId
  decisionEvents : Table DecisionEvent.eventId
  crystalMeshRules : List MeshRule
  guardrailIncidents : List GuardrailIncident

/-! ## Requests and settings -/

/-- `CrystallizeRequest`. -/
structure CrystallizeRequest where
  platform : String
  operationId : String
  accountId : String
  riskTier : String
  facets : Facets
  policyId : Option String
  reservedExposure : Decimal
  parentCrystalId : Option String

/-- `CommitRequest`. -/
structure CommitRequest where
  crystalId : String
  facets : Facets
  committedExposure : Decimal
  outcome : String
  lateAuthority : Bool

/-- `AdjudicateRequest`. -/
structure AdjudicateRequest where
  crystalId : String
  action : String
  reason : String

/-- The settings that the spine reads. -/
structure Settings where
  driftAbsoluteTolerance : Decimal
  driftRatioTolerance : Decimal

/-- The defaults of `config.py`. -/
def Settings.default : Settings := ⟨⟨500000, -6⟩, ⟨50000, -6⟩⟩

/-- The status of a `CrystallizeResult`, a `CommitResult` or an `AdjudicateResult`. -/
inductive ResultStatus where
  | crystallized | committed | stranded | replay
  deriving DecidableEq, Repr

/-- `CrystallizeResult`. -/
structure CrystallizeResult where
  crystalId : String
  operationId : String
  status : ResultStatus
  horizonExpiresAt : Timestamp
  deriving DecidableEq, Repr

/-- `CommitResult` and `AdjudicateResult`. -/
structure CommitResult where
  operationId : String
  crystalId : String
  status : ResultStatus
  deriving DecidableEq, Repr

/-- The exceptions that the spine raises or lets through. -/
inductive Exn where
  | platformNotRegisteredError (message : String)
  | platformDisabledError (message : String)
  | facetValidationError (message : String)
  | conflictError (message : String)
  | insufficientExposureError (message : String)
  | surpriseCommitBlockedError (message : String)
  | horizonStrandedError (message : String)
  | integrityError (constraint : String)
  deriving DecidableEq, Repr

/-! ## The world around the database -/

/-- What the spine takes from outside. -/
structure Deployment where
  /-- `hashlib.sha256(text.encode()).hexdigest()`. -/
  sha256 : String → Hash
  /-- `recorded_at::text`. -/
  timestampText : Timestamp → String

/-- The last value drawn from the `decision_events` id sequence, which no rollback reaches. -/
structure Outside where
  lastEventId : Int

abbrev FinanceWorld := World Database Outside
abbrev FinanceSession := Session Database Outside
abbrev FinanceTx := Tx Database Outside Exn

/-! ## Money -/

/-- The quotient `n / d` rounded half away from zero. -/
def roundHalfUp (n : Int) (d : Nat) : Int :=
  n.sign * ((2 * n.natAbs + d) / (2 * d) : Nat)

/-- `quantize_money` with `ROUND_HALF_UP`. -/
def quantizeMoney (x : Decimal) : Money :=
  if -12 ≤ x.exp then x.coeff * 10 ^ (x.exp + 12).toNat
  else roundHalfUp x.coeff (10 ^ (-12 - x.exp).toNat)

example : quantizeMoney ⟨-25, -13⟩ = -3 := by decide +kernel

end Governor.Finance

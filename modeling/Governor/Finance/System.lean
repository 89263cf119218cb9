import Mathlib
import Governor.Core.Run
import Governor.Finance.Commit

/-!
# Runs of the finance spine

The sidecar crystallizes, commits and adjudicates, the reconciler sweeps; a run is any
interleaving of their transactions, each with its own settings and clock. Row locks serialize
the transactions on one crystal, and the sweep passes over rows that are locked. A crystallize
whose first query came before a concurrent one of the same operation was committed is a step
of its own.
-/

namespace Governor.Finance

open Ledger (Timestamp Clock SweepPlan Decimal Hash)

/-- One transaction of the sidecar or the reconciler. -/
inductive Action where
  | crystallize (raced : Bool) (clock : Clock) (uuid : String) (request : CrystallizeRequest)
  | commit (settings : Settings) (clock : Clock) (request : CommitRequest)
  | adjudicate (clock : Clock) (request : AdjudicateRequest)
  | sweep (clock : Clock) (plan : SweepPlan) (batchSize : Nat)

/-- What a transaction returns. -/
inductive Response where
  | crystallized (result : CrystallizeResult)
  | closed (result : CommitResult)
  | swept (count : Nat)
  deriving DecidableEq, Repr

/-- The body of a transaction. -/
def Action.body (d : Deployment) : Action → FinanceTx Response
  | .crystallize raced clock uuid request => do
    let result ← crystallizeOperation d raced clock uuid request
    pure (.crystallized result)
  | .commit settings clock request => do
    let result ← commitOperation d settings clock request
    pure (.closed result)
  | .adjudicate clock request => do
    let result ← adjudicateOperation d clock request
    pure (.closed result)
  | .sweep clock plan batchSize => do
    let count ← sweepExpiredHorizons d clock plan batchSize
    pure (.swept count)

/-- What the caller of a transaction sees. -/
def respond (d : Deployment) (w : FinanceWorld) (a : Action) : Except Exn Response :=
  ((a.body d).run w).1

/-- The world after a transaction committed or was rolled back. -/
def step (d : Deployment) (w : FinanceWorld) (a : Action) : FinanceWorld := ((a.body d).run w).2

/-- The world after a run. -/
def run (d : Deployment) (w : FinanceWorld) (actions : List Action) : FinanceWorld :=
  actions.foldl (step d) w

theorem run_append (d : Deployment) (w : FinanceWorld) (as bs : List Action) :
    run d w (as ++ bs) = run d (run d w as) bs := List.foldl_append

/-- A spine before its first operation, with any accounts, policies, platforms and rules. -/
structure NoCrystals (w : FinanceWorld) : Prop where
  governanceCrystals : w.tables.governanceCrystals.rows = []
  commitEscrowLedger : w.tables.commitEscrowLedger.rows = []
  decisionEvents : w.tables.decisionEvents.rows = []

/-! ## A sample spine -/

/-- Midnight of 2026-01-01 UTC. -/
def sampleStart : Timestamp := 1767225600000000

/-- Both clocks, some seconds after the start. -/
def sampleClock (seconds : Int) : Clock :=
  ⟨sampleStart + seconds * 1000000, sampleStart + seconds * 1000000⟩

/-- The identifier drawn for the sample's crystal. -/
def sampleUuid : String := "00000000000040008000000000000001"

def sampleCrystalId : String := "crys_" ++ sampleUuid

/-- The facets of the sample's wire. -/
def sampleFacets : Facets := [("amount", .str "10")]

/-- A critical wire that reserves ten units. -/
def sampleCrystallize : CrystallizeRequest where
  platform := "wire_match"
  operationId := "op-1"
  accountId := "desk-default"
  riskTier := "critical"
  facets := sampleFacets
  policyId := none
  reservedExposure := ⟨10, 0⟩
  parentCrystalId := none

/-- A commit of the wire. -/
def sampleCommit (committedExposure : Decimal) : CommitRequest where
  crystalId := sampleCrystalId
  facets := sampleFacets
  committedExposure := committedExposure
  outcome := "committed"
  lateAuthority := false

/-- A manual strand of the wire. -/
def sampleStrand : AdjudicateRequest := ⟨sampleCrystalId, "strand", "manual_strand"⟩

/-- The desk of the migrations, with one hundred units. -/
def sampleWorld : FinanceWorld where
  tables := {
    accountLedgers := Table.empty.put ⟨"desk-default", 100000000000000, true, none, none⟩
    instrumentPolicyRegistry := Table.empty
    platformRegistry := none
    governanceCrystals := Table.empty
    commitEscrowLedger := Table.empty
    decisionEvents := Table.empty
    crystalMeshRules := [⟨"algofreeze", "freeze_state", "FROZEN", "wire_match", true, true⟩]
    guardrailIncidents := [] }
  outside := ⟨0⟩

/-- Crystallize the wire. -/
def sampleOpen : Action := .crystallize false (sampleClock 0) sampleUuid sampleCrystallize

/-- Commit an amount of the wire one second later. -/
def sampleClose (committedExposure : Decimal) : Action :=
  .commit Settings.default (sampleClock 1) (sampleCommit committedExposure)

/-- Strand the wire one second later. -/
def sampleAdjudicate : Action := .adjudicate (sampleClock 1) sampleStrand

/-- The digest of the sample's facets. -/
def sampleFingerprint : Hash :=
  ⟨"a93446a1fbfb0d7c9f850186edcd01c74a9d3bc918e35ee3c16b04fab05cbb20", by decide +kernel⟩

/-- The digest of the event that creates the sample's crystal. -/
def sampleCreated : Hash :=
  ⟨"a39d642cb28c9effdf1725def74fb171b265523f8506d60fe44b56b835b6866e", by decide +kernel⟩

/-- The digest of the sample's crystal in the standard tier. -/
def standardCrystalHash : Hash :=
  ⟨"b8e69c4b364a5886b347827a028e72706e2296b34219a0b75db2cd3460eed885", by decide +kernel⟩

/-- The digest of the event that creates it without a reserve. -/
def standardFreeCreated : Hash :=
  ⟨"f1d0819a26619ca24d5f3dbb3d7f3e967c9c95743998d4f7b41818e9042861e2", by decide +kernel⟩

/-- The digest of the event that locks the desk. -/
def sampleLocked : Hash :=
  ⟨"decf236bdc66a3acc9502739c14bb4cbe2d46812b6d8933fe6dd5a3e1cfe7db5", by decide +kernel⟩

/-- The text of an event of the sample. -/
def samplePayload (eventId : Int) (eventType : DecisionType) (exposureDelta : String)
    (metadata : List (String × Json)) (prevHash : Hash) (recordedAt : String) : String :=
  decisionPayload eventId "op-1" (some sampleCrystalId) "desk-default" eventType.text exposureDelta
    metadata prevHash recordedAt

/-- The texts that the sample hashes, with their SHA-256 digests. -/
def sampleDigests : List (String × Hash) :=
  [(fingerprintPayload "wire_match" "op-1" sampleFacets, sampleFingerprint),
    (crystalPayload sampleCrystalId "wire_match" "op-1" "critical" sampleFacets sampleFingerprint
      none, ⟨"e45fb6c04ee37efd0a17bb907d08e1c753c94da8e5b36a6b70dab4ca96d9b6c2", by
        decide +kernel⟩),
    (samplePayload 1 .crystalCreated "-10.000000000000"
      [("platform", .str "wire_match"), ("risk_tier", .str "critical")] Ledger.genesisHash
      "2026-01-01 00:00:00+00", sampleCreated),
    (samplePayload 2 .strandedHold "0E-12"
      [("reason", .str "manual_strand"), ("source", .str "adjudicate")] sampleCreated
      "2026-01-01 00:00:01+00",
      ⟨"0892fcdb9f64807b47eab45318ee9fb77ca7e79cb52a2207ad0b443eb9e10dbd", by decide +kernel⟩),
    (samplePayload 2 .driftEnforced "0E-12" [("drift_amount", .str "2.000000000000")] sampleCreated
      "2026-01-01 00:00:01+00", sampleLocked),
    (samplePayload 3 .committedFinal "12.000000000000"
      [("outcome", .str "committed"), ("drift_enforced", .bool true),
        ("drift_amount", .str "2.000000000000")] sampleLocked "2026-01-01 00:00:01+00",
      ⟨"4b4c54e6a67231802645fe14a784ec3a6a5f86acd78ee472ece69d7e1979d2df", by decide +kernel⟩),
    (samplePayload 2 .committedFinal "5.000000000000"
      [("outcome", .str "committed"), ("drift_enforced", .bool false),
        ("drift_amount", .str "0")] sampleCreated "2026-01-01 00:00:01+00",
      ⟨"1e39db6a21ff9f2c2ccccda330d8aec71c908731acc8571abdb6d73ce758df94", by decide +kernel⟩)]

/-- Surroundings given by a table of digests; another text has an arbitrary digest. -/
def Deployment.ofDigests (digests : List (String × Hash)) (timestampText : Timestamp → String) :
    Deployment where
  sha256 text := ((digests.find? fun p => p.1 = text).map Prod.snd).getD sampleFingerprint
  timestampText := timestampText

/-- A digest other than the arbitrary one is in the table. -/
theorem Deployment.ofDigests_mem {digests : List (String × Hash)}
    {timestampText : Timestamp → String} {text : String} {hash : Hash}
    (h : (Deployment.ofDigests digests timestampText).sha256 text = hash)
    (hne : hash ≠ sampleFingerprint) : (text, hash) ∈ digests := by
  simp only [Deployment.ofDigests] at h
  cases hfind : digests.find? fun p => p.1 = text with
  | none =>
    rw [hfind] at h
    exact absurd h.symm hne
  | some p =>
    rw [hfind] at h
    have hmem := List.mem_of_find?_eq_some hfind
    have htext : p.1 = text := by simpa using List.find?_some hfind
    have hhash : p.2 = hash := h
    rw [← htext, ← hhash]
    exact hmem

/-- The sample's surroundings; a text outside the sample has an arbitrary digest. -/
def sampleDeployment : Deployment where
  sha256 text := ((sampleDigests.find? fun p => p.1 = text).map Prod.snd).getD sampleFingerprint
  timestampText t :=
    if t = sampleStart then "2026-01-01 00:00:00+00" else "2026-01-01 00:00:01+00"

end Governor.Finance

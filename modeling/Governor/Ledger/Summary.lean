import Mathlib
import Governor.Core.Run
import Governor.Ledger.Refinement

/-!
# The attribution summary

The summary adds up columns of the operations by one dimension of their execution
identity. A run is billed by keeping, beside the ledger, the settlement that first
settled each operation; the report is compared with what those settlements carried.
The cost reaches its column on every path. The token columns are written by no
statement, so the report is exact as long as no settlement carries usage.
-/

namespace Governor.Ledger

/-! ## Token usage -/

instance : Zero TokenUsage := ⟨{}⟩

namespace TokenUsage

/-- Each of the four columns added up. -/
def total (usages : List TokenUsage) : TokenUsage where
  inputTokens := (usages.map inputTokens).sum
  outputTokens := (usages.map outputTokens).sum
  cachedInputTokens := (usages.map cachedInputTokens).sum
  cachedOutputTokens := (usages.map cachedOutputTokens).sum

theorem total_eq_zero {usages : List TokenUsage} : total usages = 0 ↔ ∀ u ∈ usages, u = 0 := by
  have hfields : ∀ u : TokenUsage, u = 0 ↔ u.inputTokens = 0 ∧ u.outputTokens = 0 ∧
      u.cachedInputTokens = 0 ∧ u.cachedOutputTokens = 0 := by
    intro u
    cases u
    exact TokenUsage.mk.injEq .. ▸ Iff.rfl
  rw [hfields]
  simp only [total, List.sum_eq_zero_iff, List.forall_mem_map, hfields]
  exact ⟨fun h u hu => ⟨h.1 u hu, h.2.1 u hu, h.2.2.1 u hu, h.2.2.2 u hu⟩,
    fun h => ⟨fun u hu => (h u hu).1, fun u hu => (h u hu).2.1, fun u hu => (h u hu).2.2.1,
      fun u hu => (h u hu).2.2.2⟩⟩

end TokenUsage

/-! ## The report -/

/-- The dimensions of `_DIMENSION_COLUMNS`. -/
inductive Dimension where
  | tenant | session | agentRun | workflowStep | user
  deriving DecidableEq, Repr

/-- The column that `_DIMENSION_COLUMNS` names. -/
def Dimension.column (dimension : Dimension) (r : EscrowRow) : String :=
  match dimension with
  | .tenant => (identityFromOperation r).tenantId
  | .session => (identityFromOperation r).sessionId
  | .agentRun => (identityFromOperation r).agentRunId
  | .workflowStep => (identityFromOperation r).workflowStep
  | .user => r.userId

/-- `AttributionSummaryRow`. -/
structure AttributionSummaryRow where
  groupKey : String
  operations : Nat
  reservedTotal : Money
  settledTotal : Money
  usage : TokenUsage
  deriving DecidableEq, Repr

/-- The operations of one group. -/
def groupOf (dimension : Dimension) (db : Database) (groupKey : String) : List EscrowRow :=
  db.escrowLedger.rows.filter fun r => dimension.column r = groupKey

/-- The keys of `GROUP BY`. -/
def groupKeys (dimension : Dimension) (db : Database) : List String :=
  (db.escrowLedger.rows.map dimension.column).dedup

/-- The aggregates of one group. -/
def summaryRow (dimension : Dimension) (db : Database) (groupKey : String) :
    AttributionSummaryRow where
  groupKey := groupKey
  operations := (groupOf dimension db groupKey).length
  reservedTotal := ((groupOf dimension db groupKey).map EscrowRow.reservedAmount).sum
  settledTotal := ((groupOf dimension db groupKey).map EscrowRow.actualAmount).sum
  usage := TokenUsage.total ((groupOf dimension db groupKey).map EscrowRow.usage)

/-- `get_attribution_summary`, `none` where the columns it names are absent; `rank` breaks the
ties of `ORDER BY settled_total DESC`. -/
def getAttributionSummary (d : Deployment) (rank : String → Nat) (dimension : Dimension)
    (limit : Nat) (db : Database) : Option (List AttributionSummaryRow) :=
  if d.attributionSchema then
    some ((((groupKeys dimension db).map (summaryRow dimension db)).insertionSort
      fun a b => b.settledTotal < a.settledTotal ∨
        a.settledTotal = b.settledTotal ∧ rank a.groupKey ≤ rank b.groupKey).take limit)
  else none

/-- With room for every group, the summary lists the aggregates of each group. -/
theorem mem_getAttributionSummary {d : Deployment} {rank : String → Nat} {dimension : Dimension}
    {limit : Nat} {db : Database} {lines : List AttributionSummaryRow}
    (h : getAttributionSummary d rank dimension limit db = some lines)
    (hlimit : (groupKeys dimension db).length ≤ limit) (line : AttributionSummaryRow) :
    line ∈ lines ↔ ∃ g ∈ groupKeys dimension db, summaryRow dimension db g = line := by
  unfold getAttributionSummary at h
  split_ifs at h
  rw [← Option.some.inj h, List.take_of_length_le, List.mem_insertionSort, List.mem_map]
  rw [List.length_insertionSort, List.length_map]
  exact hlimit

theorem mem_groupKeys {dimension : Dimension} {db : Database} {r : EscrowRow}
    (hr : r ∈ db.escrowLedger.rows) : dimension.column r ∈ groupKeys dimension db :=
  List.mem_dedup.mpr (List.mem_map_of_mem hr)

theorem mem_groupOf {dimension : Dimension} {db : Database} {g : String} {r : EscrowRow} :
    r ∈ groupOf dimension db g ↔ r ∈ db.escrowLedger.rows ∧ dimension.column r = g := by
  simp [groupOf]

/-! ## What was settled -/

/-- A ledger with the settlement that first settled each operation. -/
structure Billing where
  ledger : LedgerWorld
  settlements : String → Option SettleRequest

/-- The operation that a transaction answers as settled, with the request. -/
def settledBy (d : Deployment) (w : LedgerWorld) : Action → Option (String × SettleRequest)
  | .settle settings clock request =>
    if request.outcome = .settled then
      match respond d w (.settle settings clock request) with
      | .ok (.operation result) => some (result.idempotencyKey, request)
      | _ => none
    else none
  | _ => none

/-- Keep a settlement, unless an earlier one settled the operation. -/
def recordFirst (settlements : String → Option SettleRequest) :
    Option (String × SettleRequest) → String → Option SettleRequest
  | none => settlements
  | some (key, request) => fun k =>
    if k = key then some ((settlements key).getD request) else settlements k

/-- One transaction, with its settlement. -/
def billingStep (d : Deployment) (t : Billing) (a : Action) : Billing where
  ledger := step d t.ledger a
  settlements := recordFirst t.settlements (settledBy d t.ledger a)

namespace Billing

variable (t : Billing) (r : EscrowRow)

/-- The usage of the settlement that first settled an operation. -/
def usage : TokenUsage := ((t.settlements r.idempotencyKey).map SettleRequest.usage).getD 0

/-- The quantized cost of the settlement that first settled an operation. -/
def cost : Money :=
  ((t.settlements r.idempotencyKey).map fun q => quantizeMoney q.actualCost).getD 0

end Billing

/-- Every summary with room for all groups lists them all, each with the usage and the cost of
the settlements that first settled its operations. -/
def SummaryExact (d : Deployment) (t : Billing) : Prop :=
  ∀ rank dimension limit lines,
    getAttributionSummary d rank dimension limit t.ledger.tables = some lines →
    (groupKeys dimension t.ledger.tables).length ≤ limit →
    (∀ g ∈ groupKeys dimension t.ledger.tables, ∃ line ∈ lines, line.groupKey = g) ∧
    ∀ line ∈ lines,
      line.usage = TokenUsage.total
        ((groupOf dimension t.ledger.tables line.groupKey).map t.usage) ∧
      line.settledTotal = ((groupOf dimension t.ledger.tables line.groupKey).map t.cost).sum

/-- The transaction does not settle an operation for the first time with usage to report. -/
def SettlesUnused (d : Deployment) (t : Billing) (a : Action) : Prop :=
  d.attributionSchema = true → ∀ key request, settledBy d t.ledger a = some (key, request) →
    t.settlements key = none → request.usage = 0

/-! ## Rows and their settlements -/

/-- A row has its amount and its status from the settlement, and nothing in its token columns. -/
structure RowBilled (settlements : String → Option SettleRequest) (r : EscrowRow) : Prop where
  usage : r.usage = 0
  actualAmount : r.actualAmount =
    ((settlements r.idempotencyKey).map fun q => quantizeMoney q.actualCost).getD 0
  settled : (settlements r.idempotencyKey).isSome ↔ r.status = .settled

/-- What holds of the billing in every run. -/
structure Billed (t : Billing) : Prop where
  sound : Sound t.ledger
  rows : ∀ r ∈ t.ledger.tables.escrowLedger.rows, RowBilled t.settlements r
  stored : ∀ key, t.ledger.tables.escrowLedger.find? key = none → t.settlements key = none

theorem NoOperations.billed {w : LedgerWorld} (h : NoOperations w) : Billed ⟨w, fun _ => none⟩ where
  sound := h.sound
  rows := by simp [h.escrowLedger]
  stored := fun _ _ => rfl

namespace RowBilled

variable {settlements : String → Option SettleRequest} {operation : EscrowRow}

theorem settlements_eq_none (h : RowBilled settlements operation)
    (hns : operation.status ≠ .settled) : settlements operation.idempotencyKey = none := by
  rw [← Option.not_isSome_iff_eq_none, h.settled]
  exact hns

/-- A move that leaves the operation open keeps its amount and its columns. -/
theorem of_open (h : RowBilled settlements operation) (hns : operation.status ≠ .settled)
    {r : EscrowRow} (hkey : r.idempotencyKey = operation.idempotencyKey)
    (husage : r.usage = operation.usage) (hamount : r.actualAmount = operation.actualAmount)
    (hopen : r.status ≠ .settled) : RowBilled settlements r where
  usage := husage.trans h.usage
  actualAmount := by rw [hamount, h.actualAmount, hkey]
  settled := by
    rw [hkey, h.settled]
    exact ⟨fun hs => absurd hs hns, fun hs => absurd hs hopen⟩

/-- The row of a new operation. -/
theorem of_reserve {d : Deployment} {settings : Settings} {clock : Clock}
    {request : ReserveRequest} (hnone : settlements request.idempotencyKey = none) :
    RowBilled settlements (reserveChange d settings clock request).new where
  usage := rfl
  actualAmount := by
    change 0 = ((settlements request.idempotencyKey).map _).getD 0
    rw [hnone]
    rfl
  settled := by
    change (settlements request.idempotencyKey).isSome ↔ EscrowStatus.reserved = .settled
    simp [hnone]

/-- The row of an operation that is settled for the first time. -/
theorem of_settle (h : RowBilled settlements operation) (hns : operation.status ≠ .settled)
    (clock : Clock) (request : SettleRequest) :
    RowBilled (recordFirst settlements (some (operation.idempotencyKey, request)))
      (settledRow clock operation request) := by
  have hrecorded : recordFirst settlements (some (operation.idempotencyKey, request))
      (settledRow clock operation request).idempotencyKey = some request := by
    change (if operation.idempotencyKey = operation.idempotencyKey then _ else _) = _
    rw [if_pos rfl, h.settlements_eq_none hns, Option.getD_none]
  refine ⟨h.usage, ?_, ?_⟩
  · rw [hrecorded]
    rfl
  · rw [hrecorded]
    exact iff_of_true rfl rfl

theorem congr {settlements' : String → Option SettleRequest} (h : RowBilled settlements operation)
    (heq : settlements' operation.idempotencyKey = settlements operation.idempotencyKey) :
    RowBilled settlements' operation := by
  refine ⟨h.usage, ?_, ?_⟩
  · rw [heq]
    exact h.actualAmount
  · rw [heq]
    exact h.settled

end RowBilled

section Runs

variable {d : Deployment} {t : Billing}

/-- Moves that keep the settlements keep the billing, if their rows are billed. -/
theorem Billed.of_moves {db' : Database} {cs : List Change} (h : Billed t)
    (hmoves : Moves d t.ledger.tables cs db')
    (hcs : ∀ c ∈ cs, RowBilled t.settlements c.new) :
    (∀ r ∈ db'.escrowLedger.rows, RowBilled t.settlements r) ∧
      ∀ key, db'.escrowLedger.find? key = none → t.settlements key = none := by
  refine ⟨hmoves.rows hcs h.rows, ?_⟩
  refine hmoves.keeps (I := fun db => ∀ key, db.escrowLedger.find? key = none →
    t.settlements key = none) ?_ ?_ h.stored
  · intro db db' hidle hdb
    rw [hidle.escrowLedger]
    exact hdb
  · intro db c db' hmove hdb key hkey
    rw [hmove.new, Table.find?_put] at hkey
    split_ifs at hkey
    exact hdb key hkey

theorem recordFirst_of_isSome {settlements : String → Option SettleRequest} {key : String}
    {request : SettleRequest} (h : (settlements key).isSome) :
    recordFirst settlements (some (key, request)) = settlements := by
  funext k
  obtain ⟨first, hfirst⟩ := Option.isSome_iff_exists.mp h
  simp only [recordFirst]
  split_ifs with hk
  · rw [hk, hfirst, Option.getD_some]
  · rfl

/-- What a settlement commits, with the settlement recorded, keeps the billing. -/
theorem Billed.of_settle {clock : Clock} {request : SettleRequest} {result : OperationResult}
    {db' : Database} (h : Billed t)
    (hc : SettleCommitted d clock request t.ledger.tables result db') :
    let settlements := recordFirst t.settlements
      (if request.outcome = .settled then some (result.idempotencyKey, request) else none)
    (∀ r ∈ db'.escrowLedger.rows, RowBilled settlements r) ∧
      ∀ key, db'.escrowLedger.find? key = none → settlements key = none := by
  have hloaded : ∀ {operation}, loadOperationForUpdate t.ledger.tables request = some operation →
      RowBilled t.settlements operation :=
    fun hload => h.rows _ (Table.mem_of_find? (find?_of_loadOperationForUpdate hload))
  cases hc with
  | @replayed operation hload _ ho hs _ =>
    rw [if_pos ho, recordFirst_of_isSome ((hloaded hload).settled.mpr hs)]
    exact ⟨h.rows, h.stored⟩
  | @settled operation ps db' hload _ ho hns hmove =>
    rw [if_pos ho]
    have hkey : ∀ k, k ≠ operation.idempotencyKey →
        recordFirst t.settlements (some (operation.idempotencyKey, request)) k =
          t.settlements k := fun k hk => if_neg hk
    constructor
    · rw [hmove.new, Table.forall_mem_put]
      refine ⟨(hloaded hload).of_settle hns clock request, ?_⟩
      intro r hr hne
      exact (h.rows r hr).congr (hkey _ hne)
    · intro key hnone
      rw [hmove.new, Table.find?_put] at hnone
      split_ifs at hnone with hk
      rw [hkey key hk]
      exact h.stored key hnone
  | @recorded operation ps db' hload ho hmove =>
    rw [if_neg ho]
    refine h.of_moves (Moves.single hmove) ?_
    intro c hc
    obtain rfl := List.mem_singleton.mp hc
    refine (hloaded hload).of_open (Transition.not_settled hmove.valid) rfl rfl rfl ?_
    change request.outcome.status ≠ .settled
    cases hout : request.outcome with
    | inFlight | providerTimeout => simp [SettleOutcome.status]
    | settled => exact absurd hout ho

/-- Every transaction keeps the billing. -/
theorem billingStep_billed (h : Billed t) (a : Action) : Billed (billingStep d t a) := by
  have hc := (body_committed (d := d) h.sound a).1
  have hkept : (∀ r ∈ (step d t.ledger a).tables.escrowLedger.rows,
        RowBilled (recordFirst t.settlements (settledBy d t.ledger a)) r) ∧
      ∀ key, (step d t.ledger a).tables.escrowLedger.find? key = none →
        recordFirst t.settlements (settledBy d t.ledger a) key = none := by
    generalize hresponse : respond d t.ledger a = response at hc
    generalize (step d t.ledger a).tables = db' at hc ⊢
    cases hc with
    | raised _ hidle =>
      have hnone : settledBy d t.ledger a = none := by
        unfold settledBy
        split
        · rw [hresponse]
          exact ite_self _
        · rfl
      rw [hnone, hidle.escrowLedger]
      exact ⟨h.rows, h.stored⟩
    | replayed => exact ⟨h.rows, h.stored⟩
    | @reserved settings clock breaker request a db' ha hmove =>
      have hnone : settledBy d t.ledger a = none := by
        rcases ha with rfl | rfl <;> rfl
      rw [hnone]
      refine h.of_moves (Moves.single hmove) ?_
      intro c hc
      obtain rfl := List.mem_singleton.mp hc
      exact RowBilled.of_reserve (h.stored _ hmove.old)
    | @settled settings clock request result db' hsettle =>
      simp only [settledBy, hresponse]
      exact h.of_settle hsettle
    | swept hmoves =>
      refine h.of_moves hmoves ?_
      intro c hc
      obtain ⟨r, hr, rfl⟩ := List.mem_map.mp hc
      obtain ⟨hmem, hheld⟩ := mem_sweepBatch hr
      have hns := EscrowStatus.ne_settled_of_held hheld
      unfold sweepChange
      split_ifs
      · exact (h.rows r hmem).of_open hns rfl rfl rfl (by simp [EscrowRow.strand])
      · exact (h.rows r hmem).of_open hns rfl rfl rfl (by simp [EscrowRow.expire])
  exact ⟨step_sound h.sound a, hkept.1, hkept.2⟩

/-! ## The report against the settlements -/

/-- The report is exact when no settlement carried usage, and only then. -/
theorem Billed.summaryExact_iff (h : Billed t) :
    SummaryExact d t ↔ (d.attributionSchema = true → ∀ key request,
      t.settlements key = some request → request.usage = 0) := by
  have hunused : ∀ dimension g, TokenUsage.total
      ((groupOf dimension t.ledger.tables g).map EscrowRow.usage) = 0 := by
    intro dimension g
    rw [TokenUsage.total_eq_zero, List.forall_mem_map]
    exact fun r hr => (h.rows r (mem_groupOf.mp hr).1).usage
  constructor
  · intro hexact hd key request hrequest
    obtain ⟨r, hr⟩ := Option.ne_none_iff_exists'.mp fun hnone =>
      Option.some_ne_none request (hrequest.symm.trans (h.stored key hnone))
    have hmem := Table.mem_of_find? hr
    obtain ⟨lines, hlines⟩ : ∃ lines, getAttributionSummary d (fun _ => 0) .user
        (groupKeys .user t.ledger.tables).length t.ledger.tables = some lines := ⟨_, if_pos hd⟩
    obtain ⟨hlisted, htotals⟩ := hexact _ _ _ _ hlines (le_refl _)
    obtain ⟨line, hline, hkey⟩ := hlisted _ (mem_groupKeys hmem)
    obtain ⟨g, -, rfl⟩ := (mem_getAttributionSummary hlines (le_refl _) line).mp hline
    have htotal := (htotals _ hline).1
    rw [summaryRow, hunused, eq_comm, TokenUsage.total_eq_zero, List.forall_mem_map] at htotal
    have husage := htotal r (mem_groupOf.mpr ⟨hmem, hkey.symm⟩)
    rwa [Billing.usage, Table.find?_some_key hr, hrequest] at husage
  · intro hzero rank dimension limit lines hlines hlimit
    have hmem := mem_getAttributionSummary hlines hlimit
    refine ⟨fun g hg => ⟨_, (hmem _).mpr ⟨g, hg, rfl⟩, rfl⟩, ?_⟩
    intro line hline
    obtain ⟨g, -, rfl⟩ := (hmem line).mp hline
    have hd : d.attributionSchema = true := by
      unfold getAttributionSummary at hlines
      split_ifs at hlines with hd
      exact hd
    constructor
    · refine (hunused dimension g).trans (TokenUsage.total_eq_zero.mpr ?_).symm
      rw [List.forall_mem_map]
      intro r _
      cases hsettled : t.settlements r.idempotencyKey with
      | none => rw [Billing.usage, hsettled]; rfl
      | some request =>
        rw [Billing.usage, hsettled]
        exact hzero hd _ request hsettled
    · change ((groupOf dimension t.ledger.tables g).map EscrowRow.actualAmount).sum = _
      rw [List.map_congr_left fun r hr => (h.rows r (mem_groupOf.mp hr).1).actualAmount]
      rfl

/-- A transaction keeps the settlements free of usage when it adds none that carries some. -/
theorem recordFirst_unused_iff {settlements : String → Option SettleRequest}
    (hzero : ∀ key request, settlements key = some request → request.usage = 0)
    (settled : Option (String × SettleRequest)) :
    (∀ key request, recordFirst settlements settled key = some request → request.usage = 0) ↔
      ∀ key request, settled = some (key, request) → settlements key = none →
        request.usage = 0 := by
  cases settled with
  | none => simpa [recordFirst] using hzero
  | some s =>
    obtain ⟨key, request⟩ := s
    constructor
    · rintro h _ _ ⟨rfl, rfl⟩ hnone
      refine h key request ?_
      simp [recordFirst, hnone]
    · intro h k request' hk
      simp only [recordFirst] at hk
      split_ifs at hk with heq
      · cases hfirst : settlements key with
        | none =>
          rw [hfirst, Option.getD_none] at hk
          exact Option.some.inj hk ▸ h key request rfl hfirst
        | some first =>
          rw [hfirst, Option.getD_some] at hk
          exact Option.some.inj hk ▸ hzero key first hfirst
      · exact hzero k request' hk

theorem billingStep_summaryExact_iff (h : Billed t) (hexact : SummaryExact d t) (a : Action) :
    SummaryExact d (billingStep d t a) ↔ SettlesUnused d t a := by
  rw [(billingStep_billed h a).summaryExact_iff]
  rw [h.summaryExact_iff] at hexact
  exact forall_congr' fun hd => recordFirst_unused_iff (hexact hd) _

/-- Over a run from the first operation on, every summary is exact as long as no operation is
first settled by a request that carries usage. -/
theorem summaryExact_iff_settlesUnused (d : Deployment) (w : LedgerWorld) (hw : NoOperations w)
    (actions : List Action) :
    Throughout (billingStep d) (SummaryExact d) ⟨w, fun _ => none⟩ actions ↔
      Along (billingStep d) (SettlesUnused d) ⟨w, fun _ => none⟩ actions := by
  refine throughout_iff_along (I := Billed) hw.billed ?_ (fun t a h => billingStep_billed h a)
    fun t a h hexact => billingStep_summaryExact_iff h hexact a
  rw [hw.billed.summaryExact_iff]
  exact fun _ _ _ h => absurd h (Option.some_ne_none _).symm

end Runs

/-- The sample with this usage in its settlement. -/
def sampleBilled (usage : TokenUsage) : List Action :=
  [.reserve Settings.default (sampleClock 0) .closed sampleReserve, sampleSweep 10,
    .settle Settings.default (sampleClock 20) { sampleSettle with usage := usage }]

theorem settlesUnused_of_usage {d : Deployment} {t : Billing} {settings : Settings}
    {clock : Clock} {request : SettleRequest} (h : request.usage = 0) :
    SettlesUnused d t (.settle settings clock request) := by
  intro _ key settled hsettled _
  simp only [settledBy] at hsettled
  split_ifs at hsettled
  split at hsettled
  · cases hsettled
    exact h
  · cases hsettled

theorem summaryExact_sample :
    Throughout (billingStep sampleDeployment) (SummaryExact sampleDeployment)
      ⟨sampleWorld, fun _ => none⟩ (sampleBilled {}) := by
  refine (summaryExact_iff_settlesUnused sampleDeployment sampleWorld ⟨rfl, rfl⟩ _).mpr ?_
  refine ⟨?_, ?_, settlesUnused_of_usage rfl, trivial⟩
  · rintro _ _ _ ⟨⟩
  · rintro _ _ _ ⟨⟩

/-- A settlement with 120 input tokens settles the sample's operation; the summary then lists its
tenant with the settled amount and without the tokens. -/
theorem summary_drops_usage :
    getAttributionSummary sampleDeployment (fun _ => 0) .tenant 50
        (run sampleDeployment sampleWorld (sampleBilled { inputTokens := 120 })).tables =
      some [⟨"default-tenant", 1, 1000000000000, 1000000000000, {}⟩] ∧
    ¬ Throughout (billingStep sampleDeployment) (SummaryExact sampleDeployment)
      ⟨sampleWorld, fun _ => none⟩ (sampleBilled { inputTokens := 120 }) := by
  refine ⟨by decide +kernel, fun h => ?_⟩
  have hbilled : Billed ((sampleBilled { inputTokens := 120 }).foldl
      (billingStep sampleDeployment) ⟨sampleWorld, fun _ => none⟩) :=
    foldl_invariant (NoOperations.billed ⟨rfl, rfl⟩) (fun t a ht => billingStep_billed ht a) _
  have hsettled : ((((sampleBilled { inputTokens := 120 }).foldl (billingStep sampleDeployment)
      ⟨sampleWorld, fun _ => none⟩).settlements "op-1").map SettleRequest.usage) =
        some { inputTokens := 120 } := by decide +kernel
  obtain ⟨request, hrequest, husage⟩ := Option.map_eq_some_iff.mp hsettled
  have hzero := hbilled.summaryExact_iff.mp h.last rfl "op-1" request hrequest
  rw [husage] at hzero
  exact absurd hzero (by decide)

end Governor.Ledger

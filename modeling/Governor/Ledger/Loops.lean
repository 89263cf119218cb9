import Mathlib
import Governor.Core.Run
import Governor.Ledger.Dispatch

/-!
# The loop guardrail over a history of updates

The guardrail keeps one counter for each text `run:step:signature` and never resets one. It
refuses an update when enough earlier updates had the same text, whatever came between; the
updates that it is meant to refuse are those that repeat the signature of the last ones of their
run and step.
-/

namespace Governor.Ledger

variable {d : Deployment} {w : LedgerWorld}

/-- The agent run, the workflow step and the signature of an update. -/
structure SignedUpdate where
  agentRunId : String
  workflowStep : String
  signature : String
  deriving DecidableEq

/-- The counter of an update. -/
def SignedUpdate.scopeKey (u : SignedUpdate) : String :=
  u.agentRunId ++ ":" ++ u.workflowStep ++ ":" ++ u.signature

/-- What an update of the operation carries. -/
def signedUpdate (operation : EscrowRow) (request : SettleRequest) : SignedUpdate :=
  ⟨(identityFromOperation operation).agentRunId, (identityFromOperation operation).workflowStep,
    request.loopSignature.getD ""⟩

/-- A transaction that brings this update to the guardrail. -/
def Guards (d : Deployment) (w : LedgerWorld) (a : Action) (u : SignedUpdate) : Prop :=
  ∃ settings clock request operation, a = .settle settings clock request ∧
    Updates d w.tables request operation ∧ d.attributionSchema = true ∧
    truthy request.loopSignature = true ∧ u = signedUpdate operation request

/-- Whether a transaction has been recorded or the guardrail has refused it. -/
def decided (r : Except Exn Response) : Bool :=
  match r with
  | .ok _ => true
  | .error e => e = guardrailError

/-- The signed update of a transaction, if it is recorded or refused by the guardrail. -/
def signedBy (d : Deployment) (w : LedgerWorld) : Action → Option SignedUpdate
  | .settle settings clock request =>
    (loadOperationForUpdate w.tables request).bind fun operation =>
      if d.attributionSchema && truthy request.loopSignature && request.outcome ≠ .settled &&
        decided (respond d w (.settle settings clock request)) then
        some (signedUpdate operation request)
      else none
  | _ => none

/-- A world with its signed updates so far. -/
abbrev Monitored := LedgerWorld × List SignedUpdate

/-- One transaction, with its signed update added to the history. -/
def monitoredStep (d : Deployment) (t : Monitored) (a : Action) : Monitored :=
  (step d t.1 a, t.2 ++ (signedBy d t.1 a).toList)

/-! ## What the guardrail is meant to refuse -/

/-- The last `n` signed updates of the run and the step are all this one. -/
def Repeats (n : Nat) (history : List SignedUpdate) (u : SignedUpdate) : Prop :=
  List.replicate n u <:+
    history.filter fun v => v.agentRunId = u.agentRunId ∧ v.workflowStep = u.workflowStep

/-- An update is refused exactly if it repeats the last `n`, and its counter is its own. -/
def GuardrailExact (d : Deployment) (n : Nat) (t : Monitored) (a : Action) : Prop :=
  ∀ u, Guards d t.1 a u →
    (respond d t.1 a = .error guardrailError ↔ Repeats n t.2 u) ∧
      ∀ v ∈ t.2, v.scopeKey = u.scopeKey → v = u

/-- How many signed updates had the counter of this one. -/
def sameCounter (history : List SignedUpdate) (key : String) : Nat :=
  history.countP fun v => v.scopeKey = key

/-- Once `n` updates, and one at least, had the text of this one, the last `n` of its run and
step all are this one; no other update has its text. -/
def Uninterrupted (d : Deployment) (n : Nat) (t : Monitored) (a : Action) : Prop :=
  ∀ u, Guards d t.1 a u →
    (n = 0 → 0 < sameCounter t.2 u.scopeKey) ∧
      (max n 1 ≤ sameCounter t.2 u.scopeKey → Repeats n t.2 u) ∧
      ∀ v ∈ t.2, v.scopeKey = u.scopeKey → v = u

/-- Updates that repeat have been counted. -/
theorem Repeats.le_sameCounter {n : Nat} {history : List SignedUpdate} {u : SignedUpdate}
    (h : Repeats n history u) : n ≤ sameCounter history u.scopeKey := by
  have hrep : (List.replicate n u).countP (fun v => v.scopeKey = u.scopeKey) = n := by
    rw [List.countP_replicate, if_pos (by simp)]
  calc n = (List.replicate n u).countP (fun v => v.scopeKey = u.scopeKey) := hrep.symm
    _ ≤ (history.filter fun v => v.agentRunId = u.agentRunId ∧
          v.workflowStep = u.workflowStep).countP (fun v => v.scopeKey = u.scopeKey) :=
        List.Sublist.countP_le h.sublist
    _ ≤ sameCounter history u.scopeKey := List.Sublist.countP_le List.filter_sublist

/-! ## What the guardrail counts -/

/-- Every counter holds the number of updates with its text, up to the threshold. -/
def Counted (n : Nat) (t : Monitored) : Prop :=
  ∀ key, (t.1.tables.executionLoopState.find? key).map LoopState.consecutiveCount =
    if sameCounter t.2 key = 0 then none
    else some (min (sameCounter t.2 key : Int) (max n 1 : Nat))

/-- The counter that an update leaves, when it is passed. -/
def SignedUpdate.counter (u : SignedUpdate) (stored : Option LoopState) : LoopState :=
  stored.elim ⟨u.scopeKey, u.signature, 1⟩
    fun r => { r with consecutiveCount := r.consecutiveCount + 1 }

theorem SignedUpdate.scopeKey_counter {u : SignedUpdate} {loops : Table LoopState.scopeKey} :
    (u.counter (loops.find? u.scopeKey)).scopeKey = u.scopeKey := by
  cases hfind : loops.find? u.scopeKey with
  | none => rfl
  | some row => exact (Table.find?_some_key hfind : row.scopeKey = u.scopeKey)

theorem SignedUpdate.consecutiveCount_counter (u : SignedUpdate) (stored : Option LoopState) :
    (u.counter stored).consecutiveCount = (stored.map LoopState.consecutiveCount).getD 0 + 1 := by
  cases stored <;> rfl

theorem sameCounter_append (history : List SignedUpdate) (u : SignedUpdate) (key : String) :
    sameCounter (history ++ [u]) key =
      sameCounter history key + if u.scopeKey = key then 1 else 0 := by
  simp only [sameCounter, List.countP_append, List.countP_singleton, decide_eq_true_eq]

/-- The guardrail refuses an update exactly when its counter is at the threshold. -/
theorem refused_iff_loopRefused {settings : Settings} {clock : Clock} {request : SettleRequest}
    {operation : EscrowRow} (hupdates : Updates d w.tables request operation) :
    respond d w (.settle settings clock request) = .error guardrailError ↔
      loopRefused d w.tables settings operation request = true := by
  have hsame : ∀ {o}, loadOperationForUpdate w.tables request = some o → o = operation :=
    fun ho => Option.some.inj (ho.symm.trans hupdates.load)
  cases hr : respond d w (.settle settings clock request) with
  | ok r =>
    refine ⟨nofun, fun hrefused => ?_⟩
    obtain ⟨-, result, -, hsettle⟩ := settle_returned hr
    generalize (step d w (.settle settings clock request)).tables.dispatch = t at hsettle
    cases hsettle with
    | replayed _ _ ho => exact absurd ho hupdates.outcome
    | settled hcloses => exact absurd hcloses.outcome hupdates.outcome
    | recorded hupdates' hallowed =>
      obtain rfl := hsame hupdates'.load
      rw [hrefused] at hallowed
      cases hallowed
  | error e =>
    rw [Except.error.injEq]
    cases settle_raised hr with
    | early he hwhy =>
      exact absurd hupdates (hwhy operation hupdates.load hupdates.accepts).2
    | contradicts _ _ ho => exact absurd ho hupdates.outcome
    | guarded hupdates' hrefused =>
      obtain rfl := hsame hupdates'.load
      exact iff_of_true rfl hrefused
    | conflicting hreach =>
      refine iff_of_false (by simp [attemptConflict, guardrailError]) fun hrefused => ?_
      obtain hcloses | ⟨hupdates', hallowed⟩ := hreach
      · exact hupdates.outcome hcloses.outcome
      · obtain rfl := hsame hupdates'.load
        rw [hrefused] at hallowed
        cases hallowed
    | late he hreach =>
      refine iff_of_false he.2 fun hrefused => ?_
      obtain ⟨hcloses, -⟩ | ⟨hupdates', hallowed, -⟩ := hreach
      · exact hupdates.outcome hcloses.outcome
      · obtain rfl := hsame hupdates'.load
        rw [hrefused] at hallowed
        cases hallowed

/-- A signed update is one that came to the guardrail; unless it is refused, its counter is one
higher. -/
theorem signed_cases {a : Action} {u : SignedUpdate} (h : signedBy d w a = some u) :
    Guards d w a u ∧
      (respond d w a = .error guardrailError ∧
          (step d w a).tables.executionLoopState = w.tables.executionLoopState ∨
        respond d w a ≠ .error guardrailError ∧
          (step d w a).tables.executionLoopState = w.tables.executionLoopState.put
            (u.counter (w.tables.executionLoopState.find? u.scopeKey))) := by
  cases a with
  | reserve | racedReserve | sweep => cases h
  | settle settings clock request =>
    obtain ⟨operation, hload, hu⟩ := Option.bind_eq_some_iff.mp h
    simp only [Bool.and_eq_true, decide_eq_true_eq] at hu
    split_ifs at hu with hc
    obtain ⟨⟨⟨hattr, hsig⟩, ho⟩, hdecided⟩ := hc
    obtain rfl := Option.some.inj hu
    have hguards : ∀ {o}, Updates d w.tables request o →
        Guards d w (.settle settings clock request) (signedUpdate operation request) := by
      intro o hupdates
      obtain rfl := Option.some.inj (hupdates.load.symm.trans hload)
      exact ⟨settings, clock, request, _, rfl, hupdates, hattr, hsig, rfl⟩
    cases hr : respond d w (.settle settings clock request) with
    | error e =>
      obtain rfl : e = guardrailError := by simpa [decided, hr] using hdecided
      have hloops := congrArg DispatchTables.executionLoopState (dispatch_of_raised rfl hr)
      refine ⟨?_, .inl ⟨rfl, hloops⟩⟩
      generalize hg : guardrailError = e at hr
      cases settle_raised hr with
      | early he => exact absurd hg.symm he.2
      | contradicts _ _ ho' => exact absurd ho' ho
      | late he => exact absurd hg.symm he.2
      | conflicting => simp [attemptConflict, guardrailError] at hg
      | guarded hupdates => exact hguards hupdates
    | ok r =>
      obtain ⟨-, result, -, hsettle⟩ := settle_returned hr
      generalize hdispatch : (step d w (.settle settings clock request)).tables.dispatch = t
        at hsettle
      cases hsettle with
      | replayed _ _ ho' => exact absurd ho' ho
      | settled hcloses => exact absurd hcloses.outcome ho
      | recorded hupdates hallowed =>
        refine ⟨hguards hupdates, .inr ⟨by simp, ?_⟩⟩
        obtain rfl := Option.some.inj (hupdates.load.symm.trans hload)
        have hloops := congrArg DispatchTables.executionLoopState hdispatch
        change _ = loopsAfter d w.tables _ request at hloops
        rw [loopsAfter, if_pos (by simp [hattr, hsig])] at hloops
        exact hloops

/-- A transaction without a signed update leaves the loop counters as they are. -/
theorem loops_of_unsigned {a : Action} (h : signedBy d w a = none) :
    (step d w a).tables.executionLoopState = w.tables.executionLoopState := by
  by_cases hreturned : ∃ settings clock request r, a = .settle settings clock request ∧
      respond d w a = .ok r
  · obtain ⟨settings, clock, request, r, rfl, hr⟩ := hreturned
    obtain ⟨-, result, -, hsettle⟩ := settle_returned hr
    generalize hdispatch : (step d w (.settle settings clock request)).tables.dispatch = t
      at hsettle
    have hloops := congrArg DispatchTables.executionLoopState hdispatch
    cases hsettle with
    | replayed => exact hloops
    | settled => exact hloops
    | recorded hupdates =>
      simp only [signedBy, hupdates.load, Option.bind_some, hr, decided, Bool.and_true,
        ite_eq_right_iff, reduceCtorEq, imp_false, Bool.and_eq_true, decide_eq_true_eq,
        hupdates.outcome, ne_eq, not_false_eq_true, and_true] at h
      change _ = loopsAfter d w.tables _ request at hloops
      rw [loopsAfter, if_neg (by rwa [Bool.and_eq_true])] at hloops
      exact hloops
  · refine (step_attempts ?_).2
    exact fun settings clock request r ha hr => hreturned ⟨settings, clock, request, r, ha, hr⟩

/-- Every settlement of the run has this threshold; one below zero refuses as zero does. -/
def HasThreshold (n : Nat) : Action → Prop
  | .settle settings _ _ => settings.maxLoopRepeats.toNat = n
  | _ => True

/-- The guardrail refuses an update exactly if enough signed updates had its text. -/
theorem refused_iff {n : Nat} {t : Monitored} {a : Action} {u : SignedUpdate}
    (hn : HasThreshold n a) (h : Counted n t) (hu : Guards d t.1 a u) :
    respond d t.1 a = .error guardrailError ↔ max n 1 ≤ sameCounter t.2 u.scopeKey := by
  obtain ⟨settings, clock, request, operation, rfl, hupdates, hattr, hsig, rfl⟩ := hu
  change settings.maxLoopRepeats.toNat = n at hn
  have hcount := h (signedUpdate operation request).scopeKey
  have hcounter : loopCounter t.1.tables operation request =
      t.1.tables.executionLoopState.find? (signedUpdate operation request).scopeKey := rfl
  rw [refused_iff_loopRefused hupdates, loopRefused, hattr, hsig, hcounter, Bool.and_self,
    Bool.true_and, Option.any_eq_true]
  simp only [decide_eq_true_eq]
  constructor
  · rintro ⟨row, hrow, hle⟩
    rw [hrow, Option.map_some] at hcount
    split_ifs at hcount with hzero
    have hvalue := Option.some.inj hcount
    omega
  · intro hmax
    rw [if_neg (by omega)] at hcount
    obtain ⟨row, hrow, hvalue⟩ := Option.map_eq_some_iff.mp hcount
    exact ⟨row, hrow, by omega⟩

/-- A transaction keeps what the counters count. -/
theorem monitoredStep_counted {n : Nat} {t : Monitored} {a : Action} (hn : HasThreshold n a)
    (h : Counted n t) : Counted n (monitoredStep d t a) := by
  cases hu : signedBy d t.1 a with
  | none =>
    rw [monitoredStep, hu, Option.toList_none, List.append_nil]
    intro key
    rw [loops_of_unsigned hu]
    exact h key
  | some u =>
    rw [monitoredStep, hu, Option.toList_some]
    intro key
    rw [sameCounter_append]
    have hcount := h key
    obtain ⟨hguards, hr⟩ := signed_cases hu
    have hrefused := refused_iff hn h hguards
    obtain ⟨hr, hloops⟩ | ⟨hr, hloops⟩ := hr
    · have hmax := hrefused.mp hr
      rw [hloops, hcount]
      by_cases hk : u.scopeKey = key
      · subst hk
        rw [if_pos rfl, if_neg (by omega), if_neg (by omega)]
        congr 1
        omega
      · rw [if_neg hk, add_zero]
    · have hmax : ¬ max n 1 ≤ sameCounter t.2 u.scopeKey := fun hle => hr (hrefused.mpr hle)
      rw [hloops, Table.find?_put, SignedUpdate.scopeKey_counter]
      by_cases hk : u.scopeKey = key
      · subst hk
        rw [if_pos rfl, if_pos rfl, if_neg (by omega), Option.map_some,
          SignedUpdate.consecutiveCount_counter, hcount]
        congr 1
        split_ifs with hzero
        · rw [Option.getD_none, hzero]
          omega
        · rw [Option.getD_some]
          omega
      · rw [if_neg hk, add_zero, if_neg (Ne.symm hk), hcount]

/-- Where the counters count, the guardrail is exact on the uninterrupted updates. -/
theorem guardrailExact_iff {n : Nat} {t : Monitored} {a : Action} (hn : HasThreshold n a)
    (h : Counted n t) : GuardrailExact d n t a ↔ Uninterrupted d n t a := by
  refine forall₂_congr fun u hu => ?_
  rw [refused_iff hn h hu, ← and_assoc]
  refine and_congr_left fun _ => ?_
  constructor
  · intro hexact
    refine ⟨fun hzero => ?_, hexact.mp⟩
    subst hzero
    exact hexact.mpr List.nil_suffix
  · rintro ⟨hzero, hrepeats⟩
    refine ⟨hrepeats, fun hsame => ?_⟩
    have hle := hsame.le_sameCounter
    rcases Nat.eq_zero_or_pos n with hn0 | hpos
    · have := hzero hn0
      omega
    · omega

/-- An update of the sample with this signature. -/
def sampleSigned (minutes : Int) (signature : String) : Action :=
  .settle Settings.default (sampleClock minutes) { sampleSettle with
    outcome := .inFlight
    providerRequestId := none
    dispatchAttemptKey := some "attempt-1"
    loopSignature := some signature }

/-- The sample reserved, then updated with one signature, another and the first again. -/
def sampleSignatures : List Action :=
  [.reserve Settings.default (sampleClock 0) .closed sampleReserve, sampleSigned 1 "search",
    sampleSigned 2 "search", sampleSigned 3 "summarise", sampleSigned 4 "search"]

/-- The signed updates of the sample. -/
def sampleHistory : List SignedUpdate :=
  ["search", "search", "summarise", "search"].map
    (⟨"default-agent-run", "default-workflow-step", ·⟩)

end Governor.Ledger

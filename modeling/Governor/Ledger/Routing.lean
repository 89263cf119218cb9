import Mathlib
import Governor.Core.Run
import Governor.Ledger.Dispatch

/-!
# Provider request ids and the operations they reach

An attempt is stored under its key alone and keeps the operation that stored it first, so an
update that names the attempt of another operation moves that attempt and leaves its provider
request id with the other operation. Where no update does that, and no id is carried by
updates of two operations, a settlement that names an id only reaches the operation that
carried it. A final settlement is refused for an id that another operation holds only where
the attempts' unique index sees it.
-/

namespace Governor.Ledger

variable {d : Deployment} {w : LedgerWorld} {db : Database}

/-! ## Updates and their provider request ids -/

/-- The provider request id that an accepted settlement has its attempt carry, with the
operation that it acted on; one that repeats a terminal state stores no attempt. -/
def carriedBy (d : Deployment) (w : LedgerWorld) : Action → List (String × String)
  | .settle settings clock request =>
    match respond d w (.settle settings clock request),
      loadOperationForUpdate w.tables request, request.dispatchAttemptKey,
      request.providerRequestId with
    | .ok _, some operation, some _, some p =>
      if p = "" ∨ operation.status = .settled then [] else [(p, operation.idempotencyKey)]
    | _, _, _, _ => []
  | _ => []

/-- A world with the provider request ids carried so far. -/
abbrev Traced := LedgerWorld × List (String × String)

/-- One transaction, and what it has carried. -/
def tracedStep (d : Deployment) (t : Traced) (a : Action) : Traced :=
  (step d t.1 a, t.2 ++ carriedBy d t.1 a)

theorem foldl_tracedStep (d : Deployment) (t : Traced) (actions : List Action) :
    (actions.foldl (tracedStep d) t).1 = run d t.1 actions := by
  induction actions generalizing t with
  | nil => rfl
  | cons a as ih => exact ih (tracedStep d t a)

/-- Whether the unique index on the operations' provider request ids refuses a settlement. -/
def rowRefused (db : Database) (operation : EscrowRow) (request : SettleRequest) : Bool :=
  escrowIdTaken db.escrowLedger { operation with
    providerRequestId := coalesce request.providerRequestId operation.providerRequestId }

/-- Unless a unique index refuses it, a settlement that names an attempt names a new one or
one of its own operation, and a provider request id that no other operation has carried. -/
def KeepsApart (t : Traced) : Action → Prop
  | .settle _ clock request =>
    ∀ operation ∈ loadOperationForUpdate t.1.tables request, operation.status ≠ .settled →
    ∀ key ∈ request.dispatchAttemptKey,
      attemptRefused t.1.tables clock operation request = false →
      rowRefused t.1.tables operation request = false →
      (∀ old ∈ t.1.tables.providerDispatchAttempts.find? key,
        old.idempotencyKey = operation.idempotencyKey) ∧
      ∀ p ∈ request.providerRequestId, p ≠ "" →
        ∀ c ∈ t.2, c.1 = p → c.2 = operation.idempotencyKey
  | _ => True

/-- Each attempt's provider request id was carried for the attempt's operation, and for no
other. -/
structure Routed (t : Traced) : Prop where
  attempts : ∀ a ∈ t.1.tables.providerDispatchAttempts.rows, ∀ p, a.providerRequestId = some p →
    p ≠ "" → (p, a.idempotencyKey) ∈ t.2
  carried : ∀ p o o', (p, o) ∈ t.2 → (p, o') ∈ t.2 → o = o'

/-- The attempt that a settlement stores, where it meets the condition. -/
theorem upsertedAttempt_idempotencyKey {operation : EscrowRow} {key : String}
    (request : SettleRequest) (now : Timestamp)
    (hold : ∀ old ∈ db.providerDispatchAttempts.find? key,
      old.idempotencyKey = operation.idempotencyKey) :
    (upsertedAttempt db operation.idempotencyKey key request now).idempotencyKey =
      operation.idempotencyKey := by
  unfold upsertedAttempt
  split
  · rfl
  · next old hfind => exact hold old hfind

theorem upsertedAttempt_attemptKey {idempotencyKey key : String} {request : SettleRequest}
    {now : Timestamp} : (upsertedAttempt db idempotencyKey key request now).attemptKey = key := by
  unfold upsertedAttempt
  split
  · rfl
  · next old hfind => exact Table.find?_some_key (r := old) hfind

/-- The provider request id of the stored attempt is the request's, or the one it had. -/
theorem upsertedAttempt_providerRequestId {idempotencyKey key p : String}
    {request : SettleRequest} {now : Timestamp}
    (hp : (upsertedAttempt db idempotencyKey key request now).providerRequestId = some p) :
    request.providerRequestId = some p ∨
      ∃ old, db.providerDispatchAttempts.find? key = some old ∧ old.providerRequestId = some p := by
  unfold upsertedAttempt at hp
  split at hp
  · exact Or.inl hp
  · next old hfind =>
    simp only [coalesce] at hp
    cases hr : request.providerRequestId with
    | none => exact Or.inr ⟨old, hfind, by simpa [hr] using hp⟩
    | some q => exact Or.inl (by simpa [hr] using hp)

/-- A returned settlement acted on the operation it loaded, and stored the attempt it named
unless it repeated a terminal state. -/
theorem SettleDispatch.attempts {settings : Settings} {clock : Clock} {request : SettleRequest}
    {result : OperationResult} {t : DispatchTables}
    (h : SettleDispatch d settings clock request db result t) :
    ∃ operation, loadOperationForUpdate db request = some operation ∧
      result.idempotencyKey = operation.idempotencyKey ∧
      (operation.status = .settled ∧
          t.providerDispatchAttempts = db.providerDispatchAttempts ∨
        operation.status ≠ .settled ∧ attemptRefused db clock operation request = false ∧
          rowRefused db operation request = false ∧
          t.providerDispatchAttempts = (storedAttempt db clock operation request).elim
            db.providerDispatchAttempts db.providerDispatchAttempts.put) := by
  cases h with
  | replayed hload _ _ hs => exact ⟨_, hload, rfl, Or.inl ⟨hs, rfl⟩⟩
  | settled hcloses hfree huntaken =>
    exact ⟨_, hcloses.load, rfl, Or.inr ⟨hcloses.opened, hfree, huntaken, rfl⟩⟩
  | recorded hupdates _ hfree huntaken =>
    exact ⟨_, hupdates.load, rfl,
      Or.inr ⟨fun hs => hupdates.opened (Or.inl hs), hfree, huntaken, rfl⟩⟩

/-! ## The invariant of a run -/

/-- A transaction that stores no attempt leaves the routes as they are. -/
theorem Routed.same {t : Traced} (h : Routed t) {a : Action}
    (hattempts : (step d t.1 a).tables.providerDispatchAttempts =
      t.1.tables.providerDispatchAttempts) (hcarried : carriedBy d t.1 a = []) :
    Routed (tracedStep d t a) := by
  rw [tracedStep, hcarried, List.append_nil]
  refine ⟨?_, h.carried⟩
  rw [hattempts]
  exact h.attempts

/-- What an accepted settlement of an open operation carries. -/
theorem carriedBy_settle {settings : Settings} {clock : Clock} {request : SettleRequest}
    {operation : EscrowRow} {r : Response}
    (hok : respond d w (.settle settings clock request) = .ok r)
    (hload : loadOperationForUpdate w.tables request = some operation)
    (hns : operation.status ≠ .settled) (hkey : request.dispatchAttemptKey.isSome = true)
    (p o : String) :
    (p, o) ∈ carriedBy d w (.settle settings clock request) ↔
      request.providerRequestId = some p ∧ p ≠ "" ∧ o = operation.idempotencyKey := by
  obtain ⟨key, hkey⟩ := Option.isSome_iff_exists.mp hkey
  simp only [carriedBy, hok, hload, hkey]
  cases hp : request.providerRequestId with
  | none => simp
  | some q =>
    by_cases hq : q = ""
    · simp only [hq, true_or, ite_true, List.not_mem_nil, false_iff, Option.some.injEq]
      rintro ⟨rfl, hne, -⟩
      exact hne rfl
    · simp only [hq, hns, or_self, ite_false, List.mem_singleton, Prod.mk.injEq,
        Option.some.injEq]
      constructor
      · rintro ⟨rfl, rfl⟩
        exact ⟨rfl, hq, rfl⟩
      · rintro ⟨rfl, -, rfl⟩
        exact ⟨rfl, rfl⟩

theorem tracedStep_routed {t : Traced} {a : Action} (hc : KeepsApart t a) (h : Routed t) :
    Routed (tracedStep d t a) := by
  by_cases hreturned : ∃ settings clock request r, a = .settle settings clock request ∧
      respond d t.1 a = .ok r
  · obtain ⟨settings, clock, request, r, rfl, hok⟩ := hreturned
    obtain ⟨-, result, -, hsettle⟩ := settle_returned hok
    obtain ⟨operation, hload, -, hsame | ⟨hns, hfree, huntaken, hattempts⟩⟩ :=
      hsettle.attempts
    · refine h.same hsame.2 ?_
      simp only [carriedBy, hok, hload]
      split <;> simp_all
    cases hkey : request.dispatchAttemptKey with
    | none =>
      rw [storedAttempt, hkey] at hattempts
      refine h.same hattempts ?_
      simp [carriedBy, hkey]
    | some key =>
      have hcarried := carriedBy_settle hok hload hns (by rw [hkey]; rfl)
      obtain ⟨hown, hunused⟩ := hc operation hload hns key hkey hfree huntaken
      rw [storedAttempt, hkey, Option.map_some, Option.elim_some] at hattempts
      refine ⟨?_, ?_⟩
      · intro x hx p hp hne
        change x ∈ (step d t.1 _).tables.providerDispatchAttempts.rows at hx
        change (step d t.1 _).tables.providerDispatchAttempts = _ at hattempts
        rw [hattempts, Table.mem_rows_iff, Table.find?_put] at hx
        apply List.mem_append.mpr
        split_ifs at hx
        · obtain rfl := Option.some.inj hx
          rw [upsertedAttempt_idempotencyKey _ _ hown]
          rcases upsertedAttempt_providerRequestId hp with hp | ⟨old, hold, hp⟩
          · exact Or.inr ((hcarried _ _).mpr ⟨hp, hne, rfl⟩)
          · rw [← hown old hold]
            exact Or.inl (h.attempts old (Table.mem_of_find? hold) p hp hne)
        · exact Or.inl (h.attempts x (Table.mem_of_find? hx) p hp hne)
      · have hnew : ∀ p o o', (p, o) ∈ t.2 →
            (p, o') ∈ carriedBy d t.1 (.settle settings clock request) → o = o' := by
          intro p o o' ho ho'
          obtain ⟨hp, hne, rfl⟩ := (hcarried p o').mp ho'
          exact hunused p hp hne (p, o) ho rfl
        intro p o o' ho ho'
        rcases List.mem_append.mp ho with ho | ho <;> rcases List.mem_append.mp ho' with ho' | ho'
        · exact h.carried p o o' ho ho'
        · exact hnew p o o' ho ho'
        · exact (hnew p o' o ho' ho).symm
        · exact ((hcarried p o).mp ho).2.2.trans ((hcarried p o').mp ho').2.2.symm
  · have hnot : ∀ settings clock request r, a = .settle settings clock request →
        respond d t.1 a ≠ .ok r :=
      fun settings clock request r ha hr => hreturned ⟨settings, clock, request, r, ha, hr⟩
    refine h.same (step_attempts hnot).1 ?_
    cases a with
    | settle settings clock request =>
      simp only [carriedBy]
      split
      · next hr _ _ _ => exact absurd hr (hnot settings clock request _ rfl)
      · rfl
    | reserve | racedReserve | sweep => rfl

theorem run_routed {t : Traced} (h : Routed t) {actions : List Action}
    (hrun : Along (tracedStep d) KeepsApart t actions) :
    Routed (actions.foldl (tracedStep d) t) :=
  (throughout_of_along h (fun _ _ hc ht => tracedStep_routed hc ht) hrun).last

/-- What was carried once stays carried. -/
theorem mem_carried_foldl {t : Traced} {c : String × String} (hc : c ∈ t.2)
    (actions : List Action) : c ∈ (actions.foldl (tracedStep d) t).2 := by
  induction actions generalizing t with
  | nil => exact hc
  | cons a as ih => exact ih (t := tracedStep d t a) (List.mem_append_left _ hc)

/-- A settlement that names a provider request id only acts on the operation that carried it. -/
theorem Routed.reaches {t : Traced} (h : Routed t) {p o : String} (hne : p ≠ "")
    (hc : (p, o) ∈ t.2) {settings : Settings} {clock : Clock} {request : SettleRequest}
    (hkey : request.idempotencyKey = none) (hp : request.providerRequestId = some p)
    {result : OperationResult}
    (hok : respond d t.1 (.settle settings clock request) = .ok (.operation result)) :
    result.idempotencyKey = o := by
  obtain ⟨-, result', hr, hsettle⟩ := settle_returned hok
  obtain rfl := Response.operation.inj hr
  obtain ⟨operation, hload, hresult, -⟩ := hsettle.attempts
  simp only [loadOperationForUpdate, hkey, hp] at hload
  split_ifs at hload
  obtain ⟨a, ha, hop⟩ := Option.bind_eq_some_iff.mp hload
  have hid : a.providerRequestId = some p := by simpa using List.find?_some ha
  have hreached := h.attempts a (List.mem_of_find?_eq_some ha) p hid hne
  rw [hresult, Table.find?_some_key hop]
  exact h.carried p _ _ hreached hc

/-- A settlement that meets the condition leaves the attempts of other operations alone. -/
theorem attempts_of_others {t : Traced} {settings : Settings} {clock : Clock}
    {request : SettleRequest} {result : OperationResult}
    (hc : KeepsApart t (.settle settings clock request))
    (hok : respond d t.1 (.settle settings clock request) = .ok (.operation result))
    {x : DispatchAttempt} (hx : x.idempotencyKey ≠ result.idempotencyKey) :
    x ∈ (step d t.1 (.settle settings clock request)).tables.providerDispatchAttempts.rows ↔
      x ∈ t.1.tables.providerDispatchAttempts.rows := by
  obtain ⟨-, result', hr, hsettle⟩ := settle_returned hok
  obtain rfl := Response.operation.inj hr
  obtain ⟨operation, hload, hresult, ⟨-, hsame⟩ | ⟨hns, hfree, huntaken, hattempts⟩⟩ :=
    hsettle.attempts
  · change (step d t.1 _).tables.providerDispatchAttempts = _ at hsame
    rw [hsame]
  change (step d t.1 _).tables.providerDispatchAttempts = _ at hattempts
  rw [hresult] at hx
  cases hkey : request.dispatchAttemptKey with
  | none =>
    rw [storedAttempt, hkey] at hattempts
    rw [hattempts]
    rfl
  | some key =>
    obtain ⟨hown, -⟩ := hc operation hload hns key hkey hfree huntaken
    rw [storedAttempt, hkey, Option.map_some, Option.elim_some] at hattempts
    have hstored := upsertedAttempt_idempotencyKey request clock.utcnow hown
    rw [hattempts, Table.mem_rows_iff, Table.mem_rows_iff, Table.find?_put,
      upsertedAttempt_attemptKey]
    split_ifs with hk
    · -- neither the new attempt nor the one it replaces belongs to another operation
      constructor
      · intro he
        exact absurd (Option.some.inj he ▸ hstored) hx
      · intro he
        rw [hk] at he
        exact absurd (hown x he) hx
    · exact Iff.rfl

/-- In a run whose settlements meet the condition, an update of an operation that carries a
provider request id leaves the attempts of every other operation alone, and whatever follows,
a settlement that names only this id acts on that operation or raises. -/
theorem run_routes_settlements (d : Deployment) (w : LedgerWorld)
    (hattempts : w.tables.providerDispatchAttempts.rows = []) (before after : List Action)
    (settings : Settings) (clock : Clock) (request : SettleRequest)
    (hrun : Along (tracedStep d) KeepsApart (w, [])
      (before ++ .settle settings clock request :: after))
    (ho : request.outcome ≠ .settled) (hkey : request.dispatchAttemptKey.isSome = true)
    (p : String) (hp : request.providerRequestId = some p) (hne : p ≠ "")
    (result : OperationResult)
    (hok : respond d (run d w before) (.settle settings clock request) =
      .ok (.operation result)) :
    (∀ x : DispatchAttempt, x.idempotencyKey ≠ result.idempotencyKey →
      (x ∈ (step d (run d w before)
          (.settle settings clock request)).tables.providerDispatchAttempts.rows ↔
        x ∈ (run d w before).tables.providerDispatchAttempts.rows)) ∧
    ∀ settings' clock' request' result', request'.idempotencyKey = none →
      request'.providerRequestId = some p →
      respond d (run d w (before ++ .settle settings clock request :: after))
        (.settle settings' clock' request') = .ok (.operation result') →
      result'.idempotencyKey = result.idempotencyKey := by
  have hstart : Routed (w, []) := by
    refine ⟨?_, by simp⟩
    rw [hattempts]
    simp
  rw [along_append] at hrun
  obtain ⟨hbefore, hc, hafter⟩ := hrun
  have hrouted := run_routed hstart hbefore
  have hworld : (before.foldl (tracedStep d) (w, [])).1 = run d w before := foldl_tracedStep d _ _
  rw [← hworld] at hok ⊢
  refine ⟨fun x hx => attempts_of_others hc hok hx, ?_⟩
  intro settings' clock' request' result' hkey' hp' hok'
  obtain ⟨-, result₁, hr, hsettle⟩ := settle_returned hok
  obtain rfl := Response.operation.inj hr
  have hcarried : (p, result.idempotencyKey) ∈
      carriedBy d (before.foldl (tracedStep d) (w, [])).1 (.settle settings clock request) := by
    generalize (step d (before.foldl (tracedStep d) (w, [])).1
      (.settle settings clock request)).tables.dispatch = t at hsettle
    cases hsettle with
    | replayed _ _ hs => exact absurd hs ho
    | settled hcloses => exact absurd hcloses.outcome ho
    | recorded hupdates =>
      exact (carriedBy_settle hok hupdates.load (fun hs => hupdates.opened (Or.inl hs)) hkey
        _ _).mpr ⟨hp, hne, rfl⟩
  have hlast := run_routed (tracedStep_routed hc hrouted) hafter
  have hlater : respond d ((after.foldl (tracedStep d) (tracedStep d
      (before.foldl (tracedStep d) (w, [])) (.settle settings clock request))).1)
      (.settle settings' clock' request') = .ok (.operation result') := by
    rw [run_append, run_cons, ← hworld] at hok'
    rw [foldl_tracedStep]
    exact hok'
  exact hlast.reaches hne (mem_carried_foldl (List.mem_append_right _ hcarried) after) hkey' hp'
    hlater

instance instDecidableKeepsApart : ∀ t a, Decidable (KeepsApart t a)
  | t, .settle _ clock request => inferInstanceAs (Decidable
    (∀ operation ∈ loadOperationForUpdate t.1.tables request, operation.status ≠ .settled →
      ∀ key ∈ request.dispatchAttemptKey,
        attemptRefused t.1.tables clock operation request = false →
        rowRefused t.1.tables operation request = false →
        (∀ old ∈ t.1.tables.providerDispatchAttempts.find? key,
          old.idempotencyKey = operation.idempotencyKey) ∧
        ∀ p ∈ request.providerRequestId, p ≠ "" →
          ∀ c ∈ t.2, c.1 = p → c.2 = operation.idempotencyKey))
  | _, .reserve .. | _, .racedReserve .. | _, .sweep .. => .isTrue trivial

/-- The reserve of the sample under another key. -/
def sampleReserveOf (key : String) : ReserveRequest := { sampleReserve with idempotencyKey := key }

/-- An update of an operation, with its attempt and its provider request id. -/
def sampleUpdate (key attempt : String) (p : Option String) (hkey : key ≠ "") : SettleRequest :=
  { sampleSettle with
    idempotencyKey := some key
    outcome := .inFlight
    dispatchAttemptKey := some attempt
    providerRequestId := p
    idempotencyKey_nonempty := fun h => hkey (Option.some.inj h) }

/-- The settlement of the sample by its provider request id alone. -/
def sampleSettleById : SettleRequest :=
  { sampleSettle with idempotencyKey := none, idempotencyKey_nonempty := by decide }

/-- Two reserves. -/
def sampleReserves : List Action :=
  [.reserve Settings.default (sampleClock 0) .closed sampleReserve,
    .reserve Settings.default (sampleClock 0) .closed (sampleReserveOf "op-2")]

/-- The update of the second operation under an attempt of its own. -/
def sampleOwnUpdate : SettleRequest :=
  sampleUpdate "op-2" "attempt-2" (some "provider-1") (by decide)

theorem run_routes_settlements_sample :
    respond sampleDeployment (run sampleDeployment sampleWorld sampleReserves)
        (.settle Settings.default (sampleClock 1) sampleOwnUpdate) =
      .ok (.operation ⟨"op-2", .inFlight, 0⟩) ∧
    ∀ result', respond sampleDeployment (run sampleDeployment sampleWorld
        (sampleReserves ++ [.settle Settings.default (sampleClock 1) sampleOwnUpdate]))
        (.settle Settings.default (sampleClock 2) sampleSettleById) = .ok (.operation result') →
      result'.idempotencyKey = "op-2" := by
  have hok : respond sampleDeployment (run sampleDeployment sampleWorld sampleReserves)
        (.settle Settings.default (sampleClock 1) sampleOwnUpdate) =
      .ok (.operation ⟨"op-2", .inFlight, 0⟩) := by
    decide +kernel
  refine ⟨hok, fun result' hr => ?_⟩
  exact (run_routes_settlements sampleDeployment sampleWorld rfl sampleReserves []
    Settings.default (sampleClock 1) sampleOwnUpdate (by decide +kernel) nofun rfl "provider-1" rfl
    (by decide) _ hok).2 _ _ _ _ rfl rfl hr

/-- The first operation records an attempt. -/
def sampleFirstUpdate : Action :=
  .settle Settings.default (sampleClock 1) (sampleUpdate "op-1" "attempt-1" none (by decide))

/-- The second operation names the attempt of the first. -/
def sampleStrayUpdate : Action :=
  .settle Settings.default (sampleClock 2)
    (sampleUpdate "op-2" "attempt-1" (some "provider-1") (by decide))

/-- The second operation is dispatched once more. -/
def sampleSecondUpdate : Action :=
  .settle Settings.default (sampleClock 3)
    (sampleUpdate "op-2" "attempt-2" (some "provider-2") (by decide))

/-- The attempts with what they name. -/
def attemptIds (w : LedgerWorld) : List (String × String × Option String) :=
  w.tables.providerDispatchAttempts.rows.map fun a =>
    (a.attemptKey, a.idempotencyKey, a.providerRequestId)

/-- An update of the second operation that names the attempt of the first changes that attempt.
Once the second operation is dispatched under another id, a settlement by the first id settles
the first operation. -/
theorem update_reroutes_provider_request :
    respond sampleDeployment (run sampleDeployment sampleWorld
        (sampleReserves ++ [sampleFirstUpdate])) sampleStrayUpdate =
      .ok (.operation ⟨"op-2", .inFlight, 0⟩) ∧
    attemptIds (run sampleDeployment sampleWorld (sampleReserves ++ [sampleFirstUpdate])) =
      [("attempt-1", "op-1", none)] ∧
    attemptIds (run sampleDeployment sampleWorld (sampleReserves ++
        [sampleFirstUpdate, sampleStrayUpdate])) =
      [("attempt-1", "op-1", some "provider-1")] ∧
    respond sampleDeployment (run sampleDeployment sampleWorld (sampleReserves ++
        [sampleFirstUpdate, sampleStrayUpdate, sampleSecondUpdate]))
        (.settle Settings.default (sampleClock 4) sampleSettleById) =
      .ok (.operation ⟨"op-1", .settled, 1000000000000⟩) := by
  decide +kernel

/-! ## One provider request settles one operation -/

/-- The provider request id is recorded for another operation than the one of this key. -/
def RecordedElsewhere (db : Database) (key p : String) : Prop :=
  (∃ a ∈ db.providerDispatchAttempts.rows,
    a.providerRequestId = some p ∧ a.idempotencyKey ≠ key) ∨
  ∃ r ∈ db.escrowLedger.rows, r.providerRequestId = some p ∧ r.idempotencyKey ≠ key

/-- A final settlement of one operation with a provider request id of another. -/
structure SettlesAnothers (db : Database) (request : SettleRequest) (key p : String) : Prop where
  names : request.idempotencyKey = some key
  carries : request.providerRequestId = some p
  nonempty : p ≠ ""
  outcome : request.outcome = .settled
  recorded : RecordedElsewhere db key p

/-- The settlement raises `ConflictError` and changes nothing. -/
def Rejected (d : Deployment) (w : LedgerWorld) (settings : Settings) (clock : Clock)
    (request : SettleRequest) : Prop :=
  (∃ m, respond d w (.settle settings clock request) = .error (.conflictError m)) ∧
    (step d w (.settle settings clock request)).tables = w.tables

/-- Where the code sees the conflict: the operation is stored, the request does not contradict
its identity, and the operation is settled with another id or amount, or is open while the
attempt that the request names differs from the one that has the id. -/
def ConflictSeen (d : Deployment) (db : Database) (request : SettleRequest)
    (key p : String) : Prop :=
  ∃ operation, db.escrowLedger.find? key = some operation ∧
    (d.attributionSchema = true → identityMismatch operation request = none) ∧
    (operation.status = .settled ∧ (operation.providerRequestId ≠ some p ∨
        operation.actualAmount ≠ quantizeMoney request.actualCost) ∨
      operation.status ≠ .settled ∧ ∃ attempt ∈ request.dispatchAttemptKey,
        ∃ a ∈ db.providerDispatchAttempts.rows,
          a.attemptKey ≠ attempt ∧ a.providerRequestId = some p)

theorem attemptRefused_iff {clock : Clock} {operation : EscrowRow} {request : SettleRequest}
    {p : String} (hp : request.providerRequestId = some p) :
    attemptRefused db clock operation request = true ↔
      ∃ attempt ∈ request.dispatchAttemptKey, ∃ a ∈ db.providerDispatchAttempts.rows,
        a.attemptKey ≠ attempt ∧ a.providerRequestId = some p := by
  have hid : ∀ attempt, (upsertedAttempt db operation.idempotencyKey attempt request
      clock.utcnow).providerRequestId = some p := by
    intro attempt
    unfold upsertedAttempt
    split
    · exact hp
    · simp [coalesce, hp]
  simp only [attemptRefused, storedAttempt, Option.any_map, Option.any_eq_true,
    attemptIdTaken, hid, upsertedAttempt_attemptKey, Option.isSome_some, Bool.true_and,
    List.any_eq_true, Bool.and_eq_true, decide_eq_true_eq]
  rfl

theorem settlementReplays_iff {operation : EscrowRow} {request : SettleRequest} {p : String}
    (hp : request.providerRequestId = some p) (hne : p ≠ "") :
    settlementReplays operation request = false ↔ operation.providerRequestId ≠ some p ∨
      operation.actualAmount ≠ quantizeMoney request.actualCost := by
  have htruthy : truthy (some p) = true := by simpa [truthy] using hne
  rw [settlementReplays, hp, htruthy, Bool.not_true, Bool.false_or, Bool.and_eq_false_iff,
    decide_eq_false_iff_not, decide_eq_false_iff_not, ne_comm]

/-- The final settlement of the second operation, with an attempt or without. -/
def sampleSecondSettle (attempt : Option String) : SettleRequest :=
  { sampleSettle with
    idempotencyKey := some "op-2"
    dispatchAttemptKey := attempt
    idempotencyKey_nonempty := by decide }

/-- The first operation is in flight under the provider request id. -/
def sampleFirstInFlight : List Action :=
  sampleReserves ++ [.settle Settings.default (sampleClock 1)
    (sampleUpdate "op-1" "attempt-1" (some "provider-1") (by decide)),
    .settle Settings.default (sampleClock 2)
      (sampleUpdate "op-1" "attempt-2" (some "provider-2") (by decide))]

instance (db : Database) (key p : String) : Decidable (RecordedElsewhere db key p) :=
  inferInstanceAs (Decidable ((∃ a ∈ db.providerDispatchAttempts.rows,
    a.providerRequestId = some p ∧ a.idempotencyKey ≠ key) ∨
    ∃ r ∈ db.escrowLedger.rows, r.providerRequestId = some p ∧ r.idempotencyKey ≠ key))

end Governor.Ledger

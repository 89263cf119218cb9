import Mathlib
import Governor.Finance.Refinement

/-!
# The spine adapter

A platform talks to the spine over HTTP. The routes turn the exceptions of an operation into
status codes, `SpineAdapter` turns status codes into exceptions of its own, and a request is
tried up to three times. What the spine does between two attempts, and whether an attempt or
its reply is lost, is left open.
-/

namespace Governor.Finance

open Ledger (Clock Timestamp)

/-! ## Routes -/

/-- `str(exc)`. -/
def Exn.message : Exn → String
  | .platformNotRegisteredError m | .platformDisabledError m | .facetValidationError m
  | .conflictError m | .insufficientExposureError m | .surpriseCommitBlockedError m
  | .horizonStrandedError m | .integrityError m => m

/-- The reply to a request. -/
inductive HttpReply where
  | ok (body : Response)
  | error (status : Nat) (detail : String)
  deriving DecidableEq, Repr

/-- `response.status_code`. -/
def HttpReply.status : HttpReply → Nat
  | .ok _ => 200
  | .error status _ => status

/-- The status codes of `routes_crystallize`. -/
def crystallizeStatus : Exn → Nat
  | .conflictError _ | .insufficientExposureError _ => 409
  | .platformNotRegisteredError _ | .facetValidationError _ => 422
  | .platformDisabledError _ => 403
  | _ => 500

/-- The status codes of `routes_commit`. -/
def commitStatus : Exn → Nat
  | .surpriseCommitBlockedError _ | .horizonStrandedError _ => 409
  | _ => 500

/-- The status codes of `routes_adjudicate`. -/
def adjudicateStatus : Exn → Nat
  | .surpriseCommitBlockedError _ => 409
  | _ => 500

/-- An exception that a route does not catch is reported without its message. -/
def errorReply (status : Exn → Nat) (exn : Exn) : HttpReply :=
  if status exn = 500 then .error 500 "Internal Server Error"
  else .error (status exn) exn.message

/-- A route: in diagnostic mode writes are halted, else the operation runs. -/
def route (d : Deployment) (status : Exn → Nat) (halted : Bool) (w : FinanceWorld) (a : Action) :
    HttpReply × FinanceWorld :=
  if halted then (.error 503 "diagnostic mode: writes halted", w)
  else match respond d w a with
    | .ok body => (.ok body, step d w a)
    | .error exn => (errorReply status exn, step d w a)

/-! ## Replies as the adapter reads them -/

/-- The exceptions of the adapter. -/
inductive AdapterError where
  | surpriseCommitBlocked (detail : String)
  | horizonStranded (detail : String)
  /-- `raise_for_status`. -/
  | httpStatusError (status : Nat)
  /-- No attempt was answered. -/
  | spineAdapterError
  deriving DecidableEq, Repr

/-- `"horizon" in detail.lower()`. -/
def namesHorizon (detail : String) : Bool :=
  decide ("horizon".toList <:+: detail.toList.map Char.toLower)

/-- The crystal id that `_http_crystallize` reads from the reply. -/
def httpCrystallize : HttpReply → Except AdapterError String
  | .ok (.crystallized result) => .ok result.crystalId
  | .ok _ => .error (.httpStatusError 200)
  | .error status _ => .error (.httpStatusError status)

/-- `_http_commit`. -/
def httpCommit : HttpReply → Except AdapterError Unit
  | .ok _ => .ok ()
  | .error status detail =>
    if status = 409 then
      if namesHorizon detail then .error (.horizonStranded detail)
      else .error (.surpriseCommitBlocked detail)
    else .error (.httpStatusError status)

/-- `_http_strand`. -/
def httpStrand : HttpReply → Except AdapterError Unit
  | .ok _ => .ok ()
  | .error status detail =>
    if status = 409 then .error (.surpriseCommitBlocked detail)
    else .error (.httpStatusError status)

/-- The adapter lets a commit through exactly when the operation returned. -/
theorem httpCommit_route {d : Deployment} {w : FinanceWorld} {a : Action} :
    httpCommit (route d commitStatus false w a).1 = .ok () ↔ ∃ r, respond d w a = .ok r := by
  unfold route
  cases hr : respond d w a with
  | ok body => simp [httpCommit]
  | error exn =>
    simp only [Bool.false_eq_true, ite_false, errorReply, reduceCtorEq, exists_false, iff_false]
    split_ifs with h500
    · simp [httpCommit]
    · simp only [httpCommit]
      split_ifs <;> simp

/-! ## Requests with retry -/

/-- What becomes of one attempt. -/
inductive Delivery where
  /-- The spine never sees the request. -/
  | lost
  /-- The spine serves the request and the reply is lost. -/
  | unanswered
  | answered
  deriving DecidableEq, Repr

/-- One attempt at a request. -/
structure Attempt where
  /-- What the spine does for others before the attempt arrives. -/
  meanwhile : List Action
  delivery : Delivery
  /-- The spine is in diagnostic mode. -/
  halted : Bool
  settings : Settings
  clock : Clock
  /-- The identifier that the spine draws for a new crystal. -/
  uuid : String
  /-- A concurrent crystal of the same operation is not visible yet. -/
  raced : Bool

/-- `_request_with_retry` with some attempts left: a lost connection and a server error are
tried again, any other reply is the answer, and so is the last server error. -/
def requestWithRetry (d : Deployment) (status : Exn → Nat) (action : Attempt → Action) :
    Nat → List Attempt → FinanceWorld → Except AdapterError HttpReply × FinanceWorld
  | 0, _, w => (.error .spineAdapterError, w)
  | _ + 1, [], w => (.error .spineAdapterError, w)
  | n + 1, t :: ts, w =>
    let w := run d w t.meanwhile
    match t.delivery with
    | .lost => requestWithRetry d status action n ts w
    | .unanswered =>
      requestWithRetry d status action n ts (route d status t.halted w (action t)).2
    | .answered =>
      let r := route d status t.halted w (action t)
      if 500 ≤ r.1.status ∧ 0 < n then requestWithRetry d status action n ts r.2
      else (.ok r.1, r.2)

/-- A route changes the world as the operation does, or not at all. -/
theorem route_keeps {d : Deployment} {I : FinanceWorld → Prop} {status : Exn → Nat} {halted : Bool}
    {w : FinanceWorld} {a : Action} (h : I w) (hstep : I (step d w a)) :
    I (route d status halted w a).2 := by
  unfold route
  split_ifs
  · exact h
  · split
    · exact hstep
    · exact hstep

/-- What others keep and the request keeps is kept by the attempts at the request. -/
theorem requestWithRetry_keeps {d : Deployment} {I : FinanceWorld → Prop} {status : Exn → Nat}
    {action : Attempt → Action} {n : Nat} {ts : List Attempt} {w : FinanceWorld}
    (hmeanwhile : ∀ t ∈ ts, ∀ w, I w → I (run d w t.meanwhile))
    (hstep : ∀ t ∈ ts, ∀ w, I w → I (step d w (action t))) (h : I w) :
    I (requestWithRetry d status action n ts w).2 := by
  induction n generalizing ts w with
  | zero => exact h
  | succ n ih =>
    cases ts with
    | nil => exact h
    | cons t ts =>
      have hrun : I (run d w t.meanwhile) := hmeanwhile t List.mem_cons_self w h
      have hroute : I (route d status t.halted (run d w t.meanwhile) (action t)).2 :=
        route_keeps hrun (hstep t List.mem_cons_self _ hrun)
      have hlater : ∀ {w}, I w → I (requestWithRetry d status action n ts w).2 :=
        ih (fun t ht => hmeanwhile t (List.mem_cons_of_mem _ ht))
          (fun t ht => hstep t (List.mem_cons_of_mem _ ht))
      simp only [requestWithRetry]
      cases t.delivery with
      | lost => exact hlater hrun
      | unanswered => exact hlater hroute
      | answered =>
        simp only
        split_ifs
        · exact hlater hroute
        · exact hroute

/-- The answer to a request is the reply of a route to one of the attempts. -/
theorem requestWithRetry_answer {d : Deployment} {I : FinanceWorld → Prop} {status : Exn → Nat}
    {action : Attempt → Action} {n : Nat} {ts : List Attempt} {w w' : FinanceWorld}
    {reply : HttpReply} (hstep : ∀ w a, I w → I (step d w a)) (h : I w)
    (hanswer : requestWithRetry d status action n ts w = (.ok reply, w')) :
    ∃ t ∈ ts, ∃ before, I before ∧ route d status t.halted before (action t) = (reply, w') := by
  induction n generalizing ts w with
  | zero => cases hanswer
  | succ n ih =>
    cases ts with
    | nil => cases hanswer
    | cons t ts =>
      have hrun : I (run d w t.meanwhile) := foldl_invariant h hstep t.meanwhile
      have hroute : I (route d status t.halted (run d w t.meanwhile) (action t)).2 :=
        route_keeps hrun (hstep _ _ hrun)
      have hlater : ∀ {w}, I w → requestWithRetry d status action n ts w = (.ok reply, w') →
          ∃ t' ∈ t :: ts, ∃ before, I before ∧
            route d status t'.halted before (action t') = (reply, w') := by
        intro w hw hrest
        obtain ⟨t', ht', hfound⟩ := ih hw hrest
        exact ⟨t', List.mem_cons_of_mem _ ht', hfound⟩
      simp only [requestWithRetry] at hanswer
      cases hdelivery : t.delivery with
      | lost =>
        rw [hdelivery] at hanswer
        exact hlater hrun hanswer
      | unanswered =>
        rw [hdelivery] at hanswer
        exact hlater hroute hanswer
      | answered =>
        rw [hdelivery] at hanswer
        simp only at hanswer
        split_ifs at hanswer
        · exact hlater hroute hanswer
        · simp only [Prod.mk.injEq, Except.ok.injEq] at hanswer
          exact ⟨t, List.mem_cons_self, _, hrun, Prod.ext hanswer.1 hanswer.2⟩

/-- A route answers with what the operation returned. -/
theorem route_ok {d : Deployment} {status : Exn → Nat} {halted : Bool} {w w' : FinanceWorld}
    {a : Action} {body : Response} (h : route d status halted w a = (.ok body, w')) :
    respond d w a = .ok body ∧ w' = step d w a := by
  unfold route at h
  split_ifs at h
  · cases h
  · cases hr : respond d w a with
    | ok body' =>
      rw [hr] at h
      obtain ⟨hbody, hworld⟩ := Prod.mk.inj h
      exact ⟨congrArg _ (HttpReply.ok.inj hbody), hworld.symm⟩
    | error exn =>
      rw [hr] at h
      have hreply := (Prod.mk.inj h).1
      simp only [errorReply] at hreply
      split_ifs at hreply

/-- An attempt that reaches the spine and is answered, with no one else in between. -/
structure Reachable (t : Attempt) : Prop where
  answered : t.delivery = .answered
  writable : t.halted = false
  alone : t.meanwhile = []

/-- The first attempt decides when it reaches the spine and the operation returns. -/
theorem requestWithRetry_reachable {d : Deployment} {status : Exn → Nat}
    {action : Attempt → Action} {n : Nat} {t : Attempt} {ts : List Attempt} {w : FinanceWorld}
    {body : Response} (ht : Reachable t) (hbody : respond d w (action t) = .ok body) :
    requestWithRetry d status action (n + 1) (t :: ts) w = (.ok (.ok body), step d w (action t)) := by
  simp [requestWithRetry, ht.answered, ht.writable, ht.alone, route, hbody, run, HttpReply.status]

/-- A reply read by the adapter. -/
def readReply {α : Type} (read : HttpReply → Except AdapterError α)
    (r : Except AdapterError HttpReply × FinanceWorld) : Except AdapterError α × FinanceWorld :=
  (r.1.bind read, r.2)

/-- `SpineAdapter.crystallize` in spine mode. -/
def spineCrystallize (d : Deployment) (request : CrystallizeRequest) (ts : List Attempt)
    (w : FinanceWorld) : Except AdapterError String × FinanceWorld :=
  readReply httpCrystallize (requestWithRetry d crystallizeStatus
    (fun t => .crystallize t.raced t.clock t.uuid request) 3 ts w)

/-- `SpineAdapter.commit` in spine mode. -/
def spineCommit (d : Deployment) (request : CommitRequest) (ts : List Attempt)
    (w : FinanceWorld) : Except AdapterError Unit × FinanceWorld :=
  readReply httpCommit (requestWithRetry d commitStatus
    (fun t => .commit t.settings t.clock request) 3 ts w)

/-- `SpineAdapter.strand` in spine mode. -/
def spineStrand (d : Deployment) (request : AdjudicateRequest) (ts : List Attempt)
    (w : FinanceWorld) : Except AdapterError Unit × FinanceWorld :=
  readReply httpStrand (requestWithRetry d adjudicateStatus
    (fun t => .adjudicate t.clock request) 3 ts w)

section Keeps

variable {d : Deployment} {I : FinanceWorld → Prop} {ts : List Attempt} {w : FinanceWorld}

theorem spineCrystallize_keeps {request : CrystallizeRequest}
    (hmeanwhile : ∀ t ∈ ts, ∀ w, I w → I (run d w t.meanwhile))
    (hstep : ∀ t ∈ ts, ∀ w, I w → I (step d w (.crystallize t.raced t.clock t.uuid request)))
    (h : I w) : I (spineCrystallize d request ts w).2 :=
  requestWithRetry_keeps hmeanwhile hstep h

theorem spineCommit_keeps {request : CommitRequest}
    (hmeanwhile : ∀ t ∈ ts, ∀ w, I w → I (run d w t.meanwhile))
    (hstep : ∀ t ∈ ts, ∀ w, I w → I (step d w (.commit t.settings t.clock request)))
    (h : I w) : I (spineCommit d request ts w).2 :=
  requestWithRetry_keeps hmeanwhile hstep h

theorem spineStrand_keeps {request : AdjudicateRequest}
    (hmeanwhile : ∀ t ∈ ts, ∀ w, I w → I (run d w t.meanwhile))
    (hstep : ∀ t ∈ ts, ∀ w, I w → I (step d w (.adjudicate t.clock request)))
    (h : I w) : I (spineStrand d request ts w).2 :=
  requestWithRetry_keeps hmeanwhile hstep h

end Keeps

/-! ## What the platform may conclude -/

/-- A crystal stored under the identifier, for the request. -/
def StoredFor (d : Deployment) (request : CrystallizeRequest) (crystalId : String)
    (db : Database) : Prop :=
  ∃ c, db.governanceCrystals.find? crystalId = some c ∧ c.platform = request.platform ∧
    c.operationId = request.operationId ∧
    c.requestFingerprint =
      canonicalFingerprint d request.platform request.operationId request.facets

theorem CrystallizeCommitted.storedFor {d : Deployment} {raced : Bool} {clock : Clock}
    {uuid : String} {request : CrystallizeRequest} {db db' : Database} {result : CrystallizeResult}
    (h : CrystallizeCommitted d raced clock uuid request db (.ok (.crystallized result)) db') :
    StoredFor d request result.crystalId db' := by
  cases h with
  | replayed _ hfind hfp =>
    have hsame := List.find?_some hfind
    simp only [Bool.and_eq_true, decide_eq_true_eq] at hsame
    exact ⟨_, Table.find?_of_mem (List.mem_of_find?_eq_some hfind), hsame.1, hsame.2, hfp.symm⟩
  | @opened c record prev horizon _ hseal hopens =>
    have hfind : db'.governanceCrystals.find? c.crystalId = some c := by
      rw [hopens.crystals, Table.find?_put_self]
    refine ⟨c, hfind, ?_, ?_, ?_⟩
    all_goals
      rw [hseal]
      rfl

/-- The crystal that the adapter returns is stored, with the facets of the request. -/
theorem spineCrystallize_ok {d : Deployment} {request : CrystallizeRequest} {ts : List Attempt}
    {w w' : FinanceWorld} {crystalId : String} (hw : Sound w)
    (h : spineCrystallize d request ts w = (.ok crystalId, w')) :
    Sound w' ∧ StoredFor d request crystalId w'.tables := by
  unfold spineCrystallize readReply at h
  generalize hanswer : requestWithRetry d crystallizeStatus _ 3 ts w = r at h
  obtain ⟨r, w''⟩ := r
  obtain ⟨hread, rfl⟩ := Prod.mk.inj h
  cases r with
  | error exn => cases hread
  | ok reply =>
    obtain ⟨t, -, before, hbefore, hroute⟩ :=
      requestWithRetry_answer (I := Sound) (fun _ a hs => step_sound hs a) hw hanswer
    simp only [Except.bind] at hread
    unfold httpCrystallize at hread
    split at hread
    · next result =>
      obtain ⟨hrespond, rfl⟩ := route_ok hroute
      obtain rfl : result.crystalId = crystalId := Except.ok.inj hread
      have hc := (body_committed (d := d) hbefore
        (.crystallize t.raced t.clock t.uuid request)).1
      rw [hrespond] at hc
      refine ⟨step_sound hbefore _, ?_⟩
      cases hc with
      | crystallize h => exact h.storedFor
    · cases hread
    · cases hread

end Governor.Finance

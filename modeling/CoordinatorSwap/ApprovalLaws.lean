import CoordinatorSwap.Approvals
import CoordinatorSwap.Aggregate

/-!
# What `_getCoordinatorApprovalsAsync` computes

The laws of one run, for every endpoint map and every way the servers answer.

* All approved: the signatures are the approvals' signatures in key order, and position by
  position each has its own server's expiration time (`getCoordinatorApprovalsAsync_approvals`).
* Some error response: the thrown `CoordinatorServerError` lists each refusing server's
  response with its group, and the approved orders are the approving servers' groups followed
  by the orders that need no approval; with the error's groups they are the batch again
  (`getCoordinatorApprovalsAsync_fillFailed`). This needs the two facts the wrapper's helpers
  promise: the map's groups are the coordinator orders, and a response names the endpoint it
  came from.
* A rejected request is not contained: the loop stops there and the rejection propagates.
* The sender test is `===` on the address strings, so a sender written in another letter case
  is not a coordinator order.
* An approval without a body is a `TypeError` on `signatures`, even when every server approved
  (`getCoordinatorApprovalsAsync_missing_body`).
* A run that returns had every endpoint answer without an error and with a body, and returns
  `allApprovals`: exactly their signatures, each with its body's expiration time, so the two
  lists have one length (`getCoordinatorApprovalsAsync_ok_inv`,
  `getCoordinatorApprovalsAsync_length_eq`).

`getCoordinatorApprovalsAsync_refines` connects the run to `aggregate`: read at the protocol
level, a run whose servers all answer computes the spec's aggregation. Whatever the servers
answer, the requests are a prefix of the keys, each asked once
(`getCoordinatorApprovalsAsync_requests`).
-/

namespace CoordinatorSwap

open scoped List

/-! ## Lists of groups -/

theorem flattenGroups_map_some {α : Type} (l : List α) (g : α → List SignedOrder) :
    flattenGroups (l.map fun x => some (g x)) = (l.flatMap g).map some := by
  induction l with
  | nil => rfl
  | cons x l ih => simp [flattenGroups, ih]

theorem coordinatorOrders_append_perm (c : Address) (signedOrders : List SignedOrder) :
    coordinatorOrders c signedOrders ++ notCoordinatorOrders c signedOrders ~ signedOrders :=
  List.filter_append_perm _ _

theorem zip_flatMap_replicate (raws : List CoordinatorServerApprovalRawResponse) :
    (raws.flatMap (·.signatures)).zip
        (raws.flatMap fun r => List.replicate r.signatures.length r.expirationTimeSeconds) =
      raws.flatMap fun r => r.signatures.map (·, r.expirationTimeSeconds) := by
  induction raws with
  | nil => rfl
  | cons r raws ih =>
    simp only [List.flatMap_cons]
    rw [List.zip_append (by simp), zip_replicate_length, ih]

theorem length_flatMap_replicate (raws : List CoordinatorServerApprovalRawResponse) :
    (raws.flatMap fun r => List.replicate r.signatures.length r.expirationTimeSeconds).length =
      (raws.flatMap (·.signatures)).length := by
  induction raws <;> simp [*]

theorem map_body_of_isSome {rs : List CoordinatorServerResponse}
    (h : ∀ r ∈ rs, r.body.isSome) : rs.map (·.body) = (rs.filterMap (·.body)).map some := by
  induction rs with
  | nil => rfl
  | cons r rs ih =>
    obtain ⟨raw, hraw⟩ := Option.isSome_iff_exists.mp (h r (List.mem_cons_self _ _))
    simp [hraw, ih fun r' hr' => h r' (List.mem_cons_of_mem _ hr')]

theorem filterMap_body_of_map {rs : List CoordinatorServerResponse}
    {raws : List CoordinatorServerApprovalRawResponse} (h : rs.map (·.body) = raws.map some) :
    rs.filterMap (·.body) = raws := by
  simpa [List.filterMap_map] using congrArg (List.filterMap id) h

/-- When no response is an error, the classification keeps every response as an approval. -/
theorem filter_approvals_of_ok {keys : List Endpoint} {respond : Endpoint → CoordinatorServerResponse}
    (hok : ∀ e ∈ keys, (respond e).isError = false) :
    (keys.map respond).filter (!·.isError) = keys.map respond ∧
      ((keys.map respond).filter (·.isError)).length = 0 :=
  ⟨List.filter_eq_self.mpr fun r hr => by
    obtain ⟨e, he, rfl⟩ := List.mem_map.mp hr
    simp [hok e he], by simpa using hok⟩

/-! ## The failure report -/

section Report

variable {signedOrders : List SignedOrder} {c : Address} {M : EndpointMap}
  {respond : Endpoint → CoordinatorServerResponse}

/-- A response that names its endpoint is looked up to that endpoint's group. -/
theorem get?_operator {keys' : List Endpoint} (hsub : ∀ e ∈ keys', e ∈ M.keys)
    (hop : ∀ e ∈ M.keys, (respond e).coordinatorOperator = e) :
    keys'.map (fun e => M.get? (respond e).coordinatorOperator) =
      keys'.map fun e => some (M.groupOf e) :=
  List.map_congr_left fun e he => by rw [hop e (hsub e he), M.get?_isSome (hsub e he)]

theorem fillFailedError_approvedOrders (hop : ∀ e ∈ M.keys, (respond e).coordinatorOperator = e) :
    (fillFailedError signedOrders c M
        ⟨(M.keys.map respond).filter (·.isError), (M.keys.map respond).filter (!·.isError)⟩).approvedOrders =
      ((M.keys.filter fun e => !(respond e).isError).flatMap M.groupOf ++
        notCoordinatorOrders c signedOrders).map some := by
  simp only [fillFailedError, List.filter_map, List.map_map, Function.comp_def]
  rw [get?_operator (fun _ he => List.mem_of_mem_filter he) hop, flattenGroups_map_some,
    List.map_append]

theorem fillFailedError_errors (hop : ∀ e ∈ M.keys, (respond e).coordinatorOperator = e) :
    (fillFailedError signedOrders c M
        ⟨(M.keys.map respond).filter (·.isError), (M.keys.map respond).filter (!·.isError)⟩).errors =
      (M.keys.filter fun e => (respond e).isError).map
        fun e => { respond e with orders := some (M.groupOf e) } := by
  simp only [fillFailedError, List.filter_map, List.map_map, Function.comp_def]
  exact List.map_congr_left fun e he => by
    rw [hop e (List.mem_of_mem_filter he), M.get?_isSome (List.mem_of_mem_filter he)]

end Report

section Run

variable {w : CoordinatorWrapper} {signedOrders : List SignedOrder} {tx : SignedZeroExTransaction}
  {M : EndpointMap} {respond : Endpoint → CoordinatorServerResponse}

theorem getCoordinatorApprovalsAsync_fillFailed
    (hmap : w.mapServerEndpointsToOrdersAsync (coordinatorOrders w.address signedOrders) = .ok M)
    (hgroups : M.entries.flatMap Prod.snd ~ coordinatorOrders w.address signedOrders)
    (hsend : ∀ e ∈ M.keys, w.executeServerRequestAsync tx tx.signerAddress e = .ok (respond e))
    (hop : ∀ e ∈ M.keys, (respond e).coordinatorOperator = e)
    (herr : ∃ e ∈ M.keys, (respond e).isError = true) :
    ∃ err : CoordinatorServerError,
      (getCoordinatorApprovalsAsync w signedOrders tx).result = .error (.coordinatorServerError err) ∧
      err.message = .fillFailed ∧
      err.approvedOrders = ((M.keys.filter fun e => !(respond e).isError).flatMap M.groupOf ++
        notCoordinatorOrders w.address signedOrders).map some ∧
      err.errors = (M.keys.filter fun e => (respond e).isError).map
        (fun e => { respond e with orders := some (M.groupOf e) }) ∧
      err.cancellations = [] ∧
      err.approvedOrders ++ flattenGroups (err.errors.map (·.orders)) ~ signedOrders.map some := by
  have hne : ((M.keys.map respond).filter (·.isError)).length ≠ 0 := by
    obtain ⟨e, he, herr⟩ := herr
    simpa using ⟨e, he, herr⟩
  refine ⟨_, ?_, rfl, fillFailedError_approvedOrders hop, fillFailedError_errors hop, rfl, ?_⟩
  · rw [getCoordinatorApprovalsAsync_eq hmap hsend]
    simp only [if_neg hne]
  · rw [fillFailedError_approvedOrders hop, fillFailedError_errors hop, List.map_map]
    simp only [Function.comp_def]
    rw [flattenGroups_map_some, ← List.map_append]
    refine List.Perm.map _ ?_
    calc _ ~ M.keys.flatMap M.groupOf ++ notCoordinatorOrders w.address signedOrders := by
          simpa using flatMap_filter_append_perm M.keys (fun e => !(respond e).isError) M.groupOf
            (notCoordinatorOrders w.address signedOrders)
      _ ~ signedOrders := by
          rw [M.flatMap_groupOf]
          exact (hgroups.append_right _).trans (coordinatorOrders_append_perm _ _)

/-! ### A batch with one coordinator server -/

/-- Two orders: one sent through the Coordinator contract at `0xc0`, one not. -/
def sampleOrders : List SignedOrder := [⟨"0xc0", "0xs1"⟩, ⟨"0xf0", "0xs2"⟩]

def sampleTx : SignedZeroExTransaction :=
  { salt := 1, signerAddress := "0xt0", data := .marketSellOrdersNoThrow sampleOrders 10 ["0xs1", "0xs2"],
    verifyingContractAddress := "0xe0", signature := "0xts" }

/-- Every coordinator order goes to the server `https://a`. -/
def oneServerMap (coordinatorOrders : List SignedOrder) : EndpointMap :=
  ⟨[("https://a", coordinatorOrders)], by simp⟩

/-- The coordinator `0xc0` with one server, which answers `answer`. -/
def oneServer (answer : Endpoint → CoordinatorServerResponse) : CoordinatorWrapper where
  address := "0xc0"
  mapServerEndpointsToOrdersAsync os := .ok (oneServerMap os)
  executeServerRequestAsync _ _ e := .ok (answer e)

def refusal (e : Endpoint) : CoordinatorServerResponse := ⟨true, 400, none, some "invalid", e, none⟩

def approval (e : Endpoint) : CoordinatorServerResponse :=
  ⟨false, 200, some ⟨["0xa1", "0xa2"], 1000⟩, none, e, none⟩

/-- The first coordinator order goes to `https://a`, the others to `https://b`. -/
def twoServerMap (coordinatorOrders : List SignedOrder) : EndpointMap :=
  ⟨[("https://a", coordinatorOrders.take 1), ("https://b", coordinatorOrders.drop 1)], by simp⟩

/-- `https://a` approves and `https://b` refuses. -/
def approveThenRefuse (e : Endpoint) : CoordinatorServerResponse :=
  if e = "https://a" then approval e else refusal e

/-- The coordinator `0xc0` with two servers, which answer `answer`. -/
def twoServers (answer : Endpoint → CoordinatorServerResponse) : CoordinatorWrapper where
  address := "0xc0"
  mapServerEndpointsToOrdersAsync os := .ok (twoServerMap os)
  executeServerRequestAsync _ _ e := .ok (answer e)

/-- Three orders, the second not sent through the Coordinator contract. -/
def mixedOrders : List SignedOrder := [⟨"0xc0", "0xs1"⟩, ⟨"0xf0", "0xs2"⟩, ⟨"0xc0", "0xs4"⟩]

theorem fillFailed_approve_and_refuse :
    ∃ err : CoordinatorServerError,
      (getCoordinatorApprovalsAsync (twoServers approveThenRefuse) mixedOrders sampleTx).result =
        .error (.coordinatorServerError err) ∧
      err.message = .fillFailed ∧
      err.approvedOrders = (((twoServerMap (coordinatorOrders "0xc0" mixedOrders)).keys.filter
        fun e => !(approveThenRefuse e).isError).flatMap
          (twoServerMap (coordinatorOrders "0xc0" mixedOrders)).groupOf ++
          notCoordinatorOrders "0xc0" mixedOrders).map some ∧
      err.errors = ((twoServerMap (coordinatorOrders "0xc0" mixedOrders)).keys.filter
        fun e => (approveThenRefuse e).isError).map (fun e =>
          { approveThenRefuse e with
            orders := some ((twoServerMap (coordinatorOrders "0xc0" mixedOrders)).groupOf e) }) ∧
      err.cancellations = [] ∧
      err.approvedOrders ++ flattenGroups (err.errors.map (·.orders)) ~ mixedOrders.map some :=
  getCoordinatorApprovalsAsync_fillFailed rfl
    (by simp only [twoServerMap, List.flatMap_cons, List.flatMap_nil, List.append_nil,
      List.take_append_drop]; rfl) (fun _ _ => rfl)
    (fun e _ => by unfold approveThenRefuse; split <;> rfl)
    ⟨"https://b", by simp [twoServerMap, EndpointMap.keys], rfl⟩

/-- What `_getCoordinatorApprovalsAsync` returns when the servers of `M` answer `respond`, each
with an approval body: the bodies' signatures in key order, each with its body's expiration
time. -/
def allApprovals (M : EndpointMap) (respond : Endpoint → CoordinatorServerResponse)
    (tx : SignedZeroExTransaction) : CoordinatorApprovals :=
  let raws := (M.keys.map respond).filterMap (·.body)
  ⟨raws.flatMap (·.signatures),
    raws.flatMap fun r => List.replicate r.signatures.length r.expirationTimeSeconds, tx⟩

/-- The method when every server approves with a body: one request per key. -/
theorem getCoordinatorApprovalsAsync_all_approve
    (hmap : w.mapServerEndpointsToOrdersAsync (coordinatorOrders w.address signedOrders) = .ok M)
    (hsend : ∀ e ∈ M.keys, w.executeServerRequestAsync tx tx.signerAddress e = .ok (respond e))
    (happrove : ∀ e ∈ M.keys, (respond e).isError = false ∧ (respond e).body.isSome) :
    getCoordinatorApprovalsAsync w signedOrders tx =
      ⟨.mapServerEndpointsToOrders (coordinatorOrders w.address signedOrders) ::
          M.keys.map (.executeServerRequest tx tx.signerAddress),
        .ok (allApprovals M respond tx)⟩ := by
  obtain ⟨hkeep, hcode⟩ := filter_approvals_of_ok fun e he => (happrove e he).1
  have hbodies : ∀ r ∈ M.keys.map respond, r.body.isSome := by simpa using fun e he => (happrove e he).2
  rw [getCoordinatorApprovalsAsync_eq hmap hsend]
  simp only [if_pos hcode, hkeep, concatApprovals_eq (map_body_of_isSome hbodies) tx]
  rfl

/-- The all-approved branch. -/
theorem getCoordinatorApprovalsAsync_approvals
    (hmap : w.mapServerEndpointsToOrdersAsync (coordinatorOrders w.address signedOrders) = .ok M)
    (hsend : ∀ e ∈ M.keys, w.executeServerRequestAsync tx tx.signerAddress e = .ok (respond e))
    (hbody : ∀ e ∈ M.keys, (respond e).isError = false → (respond e).body.isSome) :
    let run := getCoordinatorApprovalsAsync w signedOrders tx
    let raws := ((M.keys.map respond).filter (!·.isError)).filterMap (·.body)
    ((∃ v, run.result = .ok v) ↔ ∀ e ∈ M.keys, (respond e).isError = false) ∧
    ∀ v, run.result = .ok v →
      v.coordinatorApprovalSignatures = raws.flatMap (·.signatures) ∧
      v.coordinatorExpirationTimes.length = v.coordinatorApprovalSignatures.length ∧
      v.coordinatorApprovalSignatures.zip v.coordinatorExpirationTimes =
        raws.flatMap (fun r => r.signatures.map (·, r.expirationTimeSeconds)) ∧
      v.signedZeroExTransaction = tx := by
  have hbody' : ∀ r ∈ (M.keys.map respond).filter (!·.isError), r.body.isSome := by
    intro r hr
    obtain ⟨hr, hok⟩ := List.mem_filter.mp hr
    obtain ⟨e, he, rfl⟩ := List.mem_map.mp hr
    exact hbody e he (by simpa using hok)
  have hrun := congrArg Async.result (getCoordinatorApprovalsAsync_eq hmap hsend)
  simp only [concatApprovals_eq (map_body_of_isSome hbody') tx] at hrun
  dsimp only
  constructor
  · rw [hrun]
    split <;> simp_all
  · intro v hv
    rw [hrun] at hv
    split at hv
    · cases hv
      exact ⟨rfl, length_flatMap_replicate _, zip_flatMap_replicate _, rfl⟩
    · cases hv

theorem getCoordinatorApprovalsAsync_no_endpoints
    (hmap : w.mapServerEndpointsToOrdersAsync (coordinatorOrders w.address signedOrders) = .ok M)
    (hkeys : M.keys = []) :
    getCoordinatorApprovalsAsync w signedOrders tx =
      ⟨[.mapServerEndpointsToOrders (coordinatorOrders w.address signedOrders)], .ok ⟨[], [], tx⟩⟩ := by
  simp [getCoordinatorApprovalsAsync, CoordinatorWrapper.mapServerEndpointsToOrders, hmap,
    requestLoop, hkeys]
  rfl

/-- When every server answers without an error but some approval carries no body, the
all-approved branch reads `signatures` of `undefined`: after asking every server the run throws
that `TypeError`, not a `CoordinatorServerError`. -/
theorem getCoordinatorApprovalsAsync_missing_body
    (hmap : w.mapServerEndpointsToOrdersAsync (coordinatorOrders w.address signedOrders) = .ok M)
    (hsend : ∀ e ∈ M.keys, w.executeServerRequestAsync tx tx.signerAddress e = .ok (respond e))
    (hok : ∀ e ∈ M.keys, (respond e).isError = false)
    (hmissing : ∃ e ∈ M.keys, (respond e).body = none) :
    getCoordinatorApprovalsAsync w signedOrders tx =
      ⟨.mapServerEndpointsToOrders (coordinatorOrders w.address signedOrders) ::
          M.keys.map (.executeServerRequest tx tx.signerAddress),
        .error (.typeError "signatures")⟩ := by
  obtain ⟨hkeep, hcode⟩ := filter_approvals_of_ok hok
  rw [getCoordinatorApprovalsAsync_eq hmap hsend]
  simp only [if_pos hcode, hkeep]
  rcases concatApprovals_cases (M.keys.map respond) tx with ⟨raws, hraws, -⟩ | h
  · obtain ⟨e, he, hnone⟩ := hmissing
    have hmem : none ∈ raws.map some :=
      hraws ▸ List.mem_map.mpr ⟨respond e, List.mem_map_of_mem _ he, hnone⟩
    simp at hmem
  · rw [h]

/-- A server that answers without an error and without a body. -/
def bodiless (e : Endpoint) : CoordinatorServerResponse := ⟨false, 200, none, none, e, none⟩

theorem missing_body_one_server :
    getCoordinatorApprovalsAsync (oneServer bodiless) sampleOrders sampleTx =
      ⟨.mapServerEndpointsToOrders (coordinatorOrders "0xc0" sampleOrders) ::
          (oneServerMap (coordinatorOrders "0xc0" sampleOrders)).keys.map
            (.executeServerRequest sampleTx sampleTx.signerAddress),
        .error (.typeError "signatures")⟩ :=
  getCoordinatorApprovalsAsync_missing_body rfl (fun _ _ => rfl) (fun _ _ => rfl)
    ⟨"https://a", by simp [oneServerMap, EndpointMap.keys], rfl⟩

/-- A run that returns: the endpoint map was returned, every endpoint answered without an error
and with a body, and the lists are the bodies' signatures in key order, each with its body's
expiration time. -/
theorem getCoordinatorApprovalsAsync_ok_inv {v : CoordinatorApprovals}
    (h : (getCoordinatorApprovalsAsync w signedOrders tx).result = .ok v) :
    ∃ (M : EndpointMap) (respond : Endpoint → CoordinatorServerResponse),
      w.mapServerEndpointsToOrdersAsync (coordinatorOrders w.address signedOrders) = .ok M ∧
      (∀ e ∈ M.keys, w.executeServerRequestAsync tx tx.signerAddress e = .ok (respond e) ∧
        (respond e).isError = false ∧ (respond e).body.isSome) ∧
      v = allApprovals M respond tx := by
  obtain ⟨M, hmap, h'⟩ := Async.result_ok_of_bind h
  obtain ⟨r, hloop, -⟩ := Async.result_ok_of_bind h'
  simp only [CoordinatorWrapper.mapServerEndpointsToOrders, Async.call_def] at hmap
  have hanswered := foldlM_requestStep_answered hloop
  let respond (e : Endpoint) : CoordinatorServerResponse :=
    match w.executeServerRequestAsync tx tx.signerAddress e with
    | .ok response => response
    | .error _ => ⟨true, 0, none, none, e, none⟩
  have hsend : ∀ e ∈ M.keys, w.executeServerRequestAsync tx tx.signerAddress e = .ok (respond e) :=
    fun e he => by
      obtain ⟨response, hr⟩ := hanswered e he
      simp [respond, hr]
  rw [getCoordinatorApprovalsAsync_eq hmap hsend] at h
  dsimp only at h
  split at h
  · rename_i hcode
    have hok : ∀ e ∈ M.keys, (respond e).isError = false := by simpa using hcode
    rw [(filter_approvals_of_ok hok).1] at h
    rcases concatApprovals_cases (M.keys.map respond) tx with ⟨raws, hraws, hc⟩ | hc <;>
      rw [hc] at h <;> cases h
    refine ⟨M, respond, hmap, fun e he => ⟨hsend e he, hok e he, ?_⟩, by
      simp only [allApprovals, filterMap_body_of_map hraws]⟩
    have hmem : (respond e).body ∈ raws.map some :=
      hraws ▸ List.mem_map_of_mem _ (List.mem_map_of_mem _ he)
    obtain ⟨raw, -, hraw⟩ := List.mem_map.mp hmem
    simp [← hraw]
  · cases h

/-- Whenever `_getCoordinatorApprovalsAsync` returns, whatever the collaborators answered, its
two lists have the same length and the transaction is the one it was given. -/
theorem getCoordinatorApprovalsAsync_length_eq {v : CoordinatorApprovals}
    (h : (getCoordinatorApprovalsAsync w signedOrders tx).result = .ok v) :
    v.coordinatorExpirationTimes.length = v.coordinatorApprovalSignatures.length ∧
      v.signedZeroExTransaction = tx := by
  obtain ⟨M, respond, -, -, rfl⟩ := getCoordinatorApprovalsAsync_ok_inv h
  exact ⟨length_flatMap_replicate _, rfl⟩

end Run

/-! ## Refinement of the aggregation -/

/-- The protocol's reading of a response: an approval is a response that is not an error and
carries a body. -/
def verdictOf (r : CoordinatorServerResponse) : Verdict :=
  match r.isError, r.body with
  | false, some raw => .approve raw.signatures raw.expirationTimeSeconds
  | _, _ => .refuse

/-- The protocol's reading of a run's outcome: two returned lists of one length, paired position
by position; or a `FillFailed` error without cancellations whose approved orders are all defined
and whose every error carries its group. Anything else has no reading. -/
def toAggregate : Except JsError CoordinatorApprovals → Option AggregateResult
  | .ok v =>
    if v.coordinatorApprovalSignatures.length = v.coordinatorExpirationTimes.length then
      some (.success (v.coordinatorApprovalSignatures.zip v.coordinatorExpirationTimes))
    else none
  | .error (.coordinatorServerError ⟨.fillFailed, approvedOrders, [], errors⟩) => do
    let approvedOrders ← approvedOrders.mapM id
    let refusals ← errors.mapM fun r => r.orders.map (r.coordinatorOperator, ·)
    pure (.failure approvedOrders refusals)
  | .error _ => none

theorem mapM_map_eq_some {α β γ : Type} {f : β → Option γ} {h : α → β} {g : α → γ} :
    ∀ {l : List α}, (∀ x ∈ l, f (h x) = some (g x)) → (l.map h).mapM f = some (l.map g)
  | [], _ => rfl
  | x :: l, hl => by
    rw [List.map_cons, List.mapM_cons, hl x (List.mem_cons_self _ _),
      mapM_map_eq_some fun y hy => hl y (List.mem_cons_of_mem _ hy)]
    rfl

theorem fillFailedError_eta (signedOrders : List SignedOrder) (c : Address) (M : EndpointMap)
    (responses : Responses) :
    fillFailedError signedOrders c M responses =
      ⟨.fillFailed, (fillFailedError signedOrders c M responses).approvedOrders, [],
        (fillFailedError signedOrders c M responses).errors⟩ := rfl

theorem verdictOf_approves {r : CoordinatorServerResponse}
    (h : r.isError = false → r.body.isSome) : (verdictOf r).approves = !r.isError := by
  cases hr : r.isError <;> cases hb : r.body <;> simp_all [verdictOf, Verdict.approves]

theorem flatMap_pairs_verdictOf {rs : List CoordinatorServerResponse}
    (h : ∀ r ∈ rs, r.isError = false) :
    rs.flatMap (fun r => (verdictOf r).pairs) =
      (rs.filterMap (·.body)).flatMap fun raw => raw.signatures.map (·, raw.expirationTimeSeconds) := by
  induction rs with
  | nil => rfl
  | cons r rs ih =>
    have hr := h r (List.mem_cons_self _ _)
    rw [List.flatMap_cons, ih fun r' hr' => h r' (List.mem_cons_of_mem _ hr')]
    cases hb : r.body <;> simp [verdictOf, hr, hb, Verdict.pairs]

section Refinement

variable {w : CoordinatorWrapper} {signedOrders : List SignedOrder} {tx : SignedZeroExTransaction}
  {M : EndpointMap} {respond : Endpoint → CoordinatorServerResponse}

/-- A run whose servers all answer, each response naming its endpoint and each approval
carrying a body, computes the protocol's aggregation of the servers' verdicts. -/
theorem getCoordinatorApprovalsAsync_refines
    (hmap : w.mapServerEndpointsToOrdersAsync (coordinatorOrders w.address signedOrders) = .ok M)
    (hsend : ∀ e ∈ M.keys, w.executeServerRequestAsync tx tx.signerAddress e = .ok (respond e))
    (hop : ∀ e ∈ M.keys, (respond e).coordinatorOperator = e)
    (hbody : ∀ e ∈ M.keys, (respond e).isError = false → (respond e).body.isSome) :
    toAggregate (getCoordinatorApprovalsAsync w signedOrders tx).result =
      some (aggregate M.entries (notCoordinatorOrders w.address signedOrders)
        fun e => verdictOf (respond e)) := by
  have happ : ∀ e ∈ M.keys, (verdictOf (respond e)).approves = !(respond e).isError :=
    fun e he => verdictOf_approves (hbody e he)
  have hfilter (q : Bool → Bool) :
      M.entries.filter (fun g => q (verdictOf (respond g.1)).approves) =
        (M.keys.filter fun e => q !(respond e).isError).map fun e => (e, M.groupOf e) := by
    rw [M.filter_entries fun e => q (verdictOf (respond e)).approves,
      List.filter_congr fun e he => by rw [happ e he]]
  by_cases hall : ∀ e ∈ M.keys, (respond e).isError = false
  · have hspec : (M.entries.all fun g => (verdictOf (respond g.1)).approves) = true := by
      simp only [List.all_eq_true]
      exact fun g hg => by rw [happ g.1 (List.mem_map_of_mem _ hg), hall g.1 (List.mem_map_of_mem _ hg)]; rfl
    rw [getCoordinatorApprovalsAsync_all_approve hmap hsend fun e he =>
      ⟨hall e he, hbody e he (hall e he)⟩, aggregate, if_pos hspec]
    simp only [toAggregate, allApprovals, length_flatMap_replicate, if_true, zip_flatMap_replicate]
    rw [← flatMap_pairs_verdictOf (by simpa using hall)]
    simp [EndpointMap.keys, List.flatMap_map]
  · have hcode : ((M.keys.map respond).filter (·.isError)).length ≠ 0 := by simpa using hall
    have hspec : (M.entries.all fun g => (verdictOf (respond g.1)).approves) = false := by
      simp only [List.all_eq_false]
      push_neg at hall
      obtain ⟨e, he, herr⟩ := hall
      obtain ⟨g, hg, rfl⟩ := List.mem_map.mp he
      exact ⟨g, hg, by rw [happ g.1 he]; simpa using herr⟩
    rw [getCoordinatorApprovalsAsync_eq hmap hsend, aggregate, if_neg hcode, if_neg (by simp [hspec])]
    have hA : M.entries.filter (fun g => (verdictOf (respond g.1)).approves) =
        (M.keys.filter fun e => !(respond e).isError).map fun e => (e, M.groupOf e) := hfilter id
    have hR : M.entries.filter (fun g => !(verdictOf (respond g.1)).approves) =
        (M.keys.filter fun e => (respond e).isError).map fun e => (e, M.groupOf e) := by
      simpa using hfilter (!·)
    have hrefusals : ((M.keys.filter fun e => (respond e).isError).map fun e =>
        { respond e with orders := some (M.groupOf e) }).mapM
          (fun r => r.orders.map (r.coordinatorOperator, ·)) =
        some ((M.keys.filter fun e => (respond e).isError).map fun e => (e, M.groupOf e)) :=
      mapM_map_eq_some fun e he => by simp [hop e (List.mem_of_mem_filter he)]
    have happroved (l : List SignedOrder) : (l.map some).mapM id = some l := by
      simpa using @mapM_map_eq_some _ _ _ id some id l fun _ _ => rfl
    dsimp only
    rw [fillFailedError_eta, fillFailedError_approvedOrders hop, fillFailedError_errors hop, hA, hR]
    simp only [toAggregate, happroved, hrefusals]
    simp [List.flatMap_map]

theorem refines_one_refusal :
    toAggregate (getCoordinatorApprovalsAsync (oneServer refusal) sampleOrders sampleTx).result =
      some (aggregate (oneServerMap (coordinatorOrders "0xc0" sampleOrders)).entries
        (notCoordinatorOrders "0xc0" sampleOrders) fun e => verdictOf (refusal e)) :=
  getCoordinatorApprovalsAsync_refines rfl (fun _ _ => rfl) (fun _ _ => rfl)
    fun _ _ h => by simp [refusal] at h

end Refinement

/-! ## The requests of a run -/

/-- Whatever the servers answer, the loop has asked a prefix of the keys, in order, once each. -/
theorem foldlM_requestStep_calls (w : CoordinatorWrapper) (tx : SignedZeroExTransaction)
    (txOrigin : Address) (keys : List Endpoint) (acc : Responses) :
    ∃ n, (keys.foldlM (requestStep w tx txOrigin) acc).calls =
      (keys.take n).map (.executeServerRequest tx txOrigin) := by
  induction keys generalizing acc with
  | nil => exact ⟨0, rfl⟩
  | cons e keys ih =>
    rw [List.foldlM_cons, requestStep_eq, Async.call_def]
    cases w.executeServerRequestAsync tx txOrigin e with
    | error x => exact ⟨1, by simp⟩
    | ok r =>
      obtain ⟨n, hn⟩ := ih (acc.push r)
      exact ⟨n + 1, by simp [hn]⟩

/-- Once the endpoint map is known, a run asks for it once and then sends the signed
transaction, with its signer as `txOrigin`, to a prefix of the endpoints in key order, each at
most once. -/
theorem getCoordinatorApprovalsAsync_requests {w : CoordinatorWrapper}
    {signedOrders : List SignedOrder} {tx : SignedZeroExTransaction} {M : EndpointMap}
    (hmap : w.mapServerEndpointsToOrdersAsync (coordinatorOrders w.address signedOrders) = .ok M) :
    ∃ n, (getCoordinatorApprovalsAsync w signedOrders tx).calls =
        .mapServerEndpointsToOrders (coordinatorOrders w.address signedOrders) ::
          (M.keys.take n).map (.executeServerRequest tx tx.signerAddress) ∧
      (M.keys.take n).Nodup := by
  obtain ⟨n, hn⟩ := foldlM_requestStep_calls w tx tx.signerAddress M.keys ⟨[], []⟩
  refine ⟨n, ?_, M.keys_nodup.sublist (List.take_sublist n _)⟩
  simp only [getCoordinatorApprovalsAsync, CoordinatorWrapper.mapServerEndpointsToOrders,
    Async.call_def, hmap, Async.ok_bind]
  rw [Async.calls_bind_of_nil fun r => by split <;> rfl]
  exact congrArg _ hn

theorem requests_one_refusal :
    ∃ n, (getCoordinatorApprovalsAsync (oneServer refusal) sampleOrders sampleTx).calls =
        .mapServerEndpointsToOrders (coordinatorOrders (oneServer refusal).address sampleOrders) ::
          ((oneServerMap (coordinatorOrders "0xc0" sampleOrders)).keys.take n).map
            (.executeServerRequest sampleTx sampleTx.signerAddress) ∧
      ((oneServerMap (coordinatorOrders "0xc0" sampleOrders)).keys.take n).Nodup :=
  getCoordinatorApprovalsAsync_requests rfl

/-! ## The sender test -/

/-- The all-approved branch throws only on an approval without a body. -/
theorem concatApprovals_error {rs : List CoordinatorServerResponse} {tx : SignedZeroExTransaction}
    {e : JsError} (h : concatApprovals rs tx = .error e) : e = .typeError "signatures" := by
  rcases concatApprovals_cases rs tx with ⟨_, _, hc⟩ | hc <;> rw [hc] at h <;> cases h
  rfl

/-- The orders sent for approval are those whose sender is the coordinator's address as a
string, in batch order, and the two filters split the batch. When the run reports refusals
after every request settled, every other order is listed as approved. -/
theorem coordinatorOrders_exact_sender (w : CoordinatorWrapper) (signedOrders : List SignedOrder)
    (tx : SignedZeroExTransaction) :
    let run := getCoordinatorApprovalsAsync w signedOrders tx
    run.calls.head? =
      some (.mapServerEndpointsToOrders (signedOrders.filter fun o => o.senderAddress = w.address)) ∧
    (∀ (M : EndpointMap) (respond : Endpoint → CoordinatorServerResponse),
      w.mapServerEndpointsToOrdersAsync (coordinatorOrders w.address signedOrders) = .ok M →
      (∀ e ∈ M.keys, w.executeServerRequestAsync tx tx.signerAddress e = .ok (respond e)) →
      ∀ err, run.result = .error (.coordinatorServerError err) →
        ∀ o ∈ signedOrders, o.senderAddress ≠ w.address → some o ∈ err.approvedOrders) ∧
    coordinatorOrders w.address signedOrders ++ notCoordinatorOrders w.address signedOrders ~
      signedOrders := by
  refine ⟨?_, fun M respond hmap hsend err h o ho hne => ?_, coordinatorOrders_append_perm _ _⟩
  · simp only [getCoordinatorApprovalsAsync, CoordinatorWrapper.mapServerEndpointsToOrders]
    cases w.mapServerEndpointsToOrdersAsync (coordinatorOrders w.address signedOrders) <;> rfl
  · rw [getCoordinatorApprovalsAsync_eq hmap hsend] at h
    dsimp only at h
    split at h
    · cases concatApprovals_error h
    · cases h
      simp [fillFailedError, notCoordinatorOrders, ho, hne]

/-- An order whose sender is the coordinator's address in another letter case is not sent for
approval, and is listed as approved when the server refuses. -/
theorem checksummed_sender_skips_approval :
    let o : SignedOrder := ⟨"0xC0", "0xs3"⟩
    let run := getCoordinatorApprovalsAsync (oneServer refusal) [⟨"0xc0", "0xs1"⟩, o] sampleTx
    o.senderAddress.data.map Char.toLower = "0xc0".data.map Char.toLower ∧
    run.calls.head? = some (.mapServerEndpointsToOrders [⟨"0xc0", "0xs1"⟩]) ∧
    ∃ err, run.result = .error (.coordinatorServerError err) ∧ some o ∈ err.approvedOrders :=
  ⟨by decide, rfl, _, rfl, by decide⟩

/-! ## The calls of a run -/

/-- A call the coordinator wrapper answers. -/
def Call.IsCoordinatorQuery : Call → Prop
  | .mapServerEndpointsToOrders _ | .executeServerRequest .. => True
  | _ => False

theorem allCalls_requestLoop (w : CoordinatorWrapper) (tx : SignedZeroExTransaction)
    (txOrigin : Address) (keys : List Endpoint) (acc : Responses) :
    Async.AllCalls Call.IsCoordinatorQuery (keys.foldlM (requestStep w tx txOrigin) acc) := by
  induction keys generalizing acc with
  | nil => simp
  | cons e keys ih =>
    rw [List.foldlM_cons, requestStep_eq]
    refine Async.AllCalls.bind (Async.AllCalls.bind ?_ fun _ _ => by simp) fun acc' _ => ih acc'
    simp [Call.IsCoordinatorQuery]

/-- `_getCoordinatorApprovalsAsync` only queries the coordinator wrapper. -/
theorem allCalls_getCoordinatorApprovalsAsync (w : CoordinatorWrapper)
    (signedOrders : List SignedOrder) (tx : SignedZeroExTransaction) :
    Async.AllCalls Call.IsCoordinatorQuery (getCoordinatorApprovalsAsync w signedOrders tx) := by
  refine Async.AllCalls.bind (by simp [CoordinatorWrapper.mapServerEndpointsToOrders,
    Call.IsCoordinatorQuery]) fun M _ =>
    Async.AllCalls.bind (allCalls_requestLoop w tx _ M.keys ⟨[], []⟩) fun r _ => ?_
  dsimp only
  split <;> simp

/-- A call `_getCoordinatorApprovalsAsync` awaits for the batch `signedOrders` and the signed
transaction `tx`: the endpoint map of the batch's coordinator orders, or a request that carries
`tx` with its signer as `txOrigin`. -/
def Call.IsApprovalQuery (w : CoordinatorWrapper) (signedOrders : List SignedOrder)
    (tx : SignedZeroExTransaction) : Call → Prop
  | .mapServerEndpointsToOrders coordinatorOrders' =>
    coordinatorOrders' = coordinatorOrders w.address signedOrders
  | .executeServerRequest tx' txOrigin _ => tx' = tx ∧ txOrigin = tx.signerAddress
  | _ => False

/-- Whatever the servers answer, `_getCoordinatorApprovalsAsync` asks about the batch's
coordinator orders and the transaction it was given, and about nothing else. -/
theorem allCalls_approvalQuery (w : CoordinatorWrapper) (signedOrders : List SignedOrder)
    (tx : SignedZeroExTransaction) :
    Async.AllCalls (Call.IsApprovalQuery w signedOrders tx)
      (getCoordinatorApprovalsAsync w signedOrders tx) := by
  refine Async.AllCalls.bind (by simp [CoordinatorWrapper.mapServerEndpointsToOrders,
    Call.IsApprovalQuery]) fun M _ => Async.AllCalls.bind (fun call h => ?_) fun r _ => ?_
  · obtain ⟨n, hn⟩ := foldlM_requestStep_calls w tx tx.signerAddress M.keys ⟨[], []⟩
    rw [requestLoop, hn] at h
    obtain ⟨e, -, rfl⟩ := List.mem_map.mp h
    exact ⟨rfl, rfl⟩
  · dsimp only
    split <;> simp

end CoordinatorSwap

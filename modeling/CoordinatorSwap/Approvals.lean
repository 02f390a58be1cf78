import CoordinatorSwap.Async

/-!
# `_getCoordinatorApprovalsAsync`

The consumer keeps the orders whose `senderAddress` is the Coordinator contract's address,
asks `_mapServerEndpointsToOrdersAsync` which server answers for each of them, and then, one
endpoint after another in `Object.keys` order, awaits `_executeServerRequestAsync` and pushes
the response on `errorResponses` or `approvalResponses` by its `isError` flag.

With no error response it returns every approval's signatures, each paired by
`formatRawResponse` with its server's expiration time. Otherwise it throws a
`CoordinatorServerError` that lists the approved orders, found by looking up each approving
response's `coordinatorOperator` in the endpoint map, and the error responses, each with its
orders looked up the same way.

The loop is `requestStep` folded over the keys; `Responses.push` is its classification. The
spec lemmas below give a whole loop in closed form for every way the requests settle: all of
them with a response (`requestLoop_ok`), or a first one rejected (`foldlM_requestStep_error`).
-/

namespace CoordinatorSwap

/-- `this._contractWrappers.coordinator`: its address, and how its two private helpers settle
for given arguments. -/
structure CoordinatorWrapper where
  address : Address
  mapServerEndpointsToOrdersAsync : List SignedOrder → Except JsError EndpointMap
  executeServerRequestAsync :
    SignedZeroExTransaction → Address → Endpoint → Except JsError CoordinatorServerResponse

namespace CoordinatorWrapper

variable (w : CoordinatorWrapper)

/-- `await _mapServerEndpointsToOrdersAsync(coordinatorOrders)`. -/
def mapServerEndpointsToOrders (coordinatorOrders : List SignedOrder) : Async EndpointMap :=
  .call (.mapServerEndpointsToOrders coordinatorOrders)
    (w.mapServerEndpointsToOrdersAsync coordinatorOrders)

/-- `await _executeServerRequestAsync(signedZeroExTransaction, txOrigin, endpoint)`. -/
def executeServerRequest (tx : SignedZeroExTransaction) (txOrigin : Address)
    (endpoint : Endpoint) : Async CoordinatorServerResponse :=
  .call (.executeServerRequest tx txOrigin endpoint) (w.executeServerRequestAsync tx txOrigin endpoint)

end CoordinatorWrapper

/-- The arrays `errorResponses` and `approvalResponses`. -/
structure Responses where
  errorResponses : List CoordinatorServerResponse
  approvalResponses : List CoordinatorServerResponse

/-- `if (response.isError) errorResponses.push(response) else approvalResponses.push(response)`. -/
def Responses.push (acc : Responses) (response : CoordinatorServerResponse) : Responses :=
  if response.isError then { acc with errorResponses := acc.errorResponses ++ [response] }
  else { acc with approvalResponses := acc.approvalResponses ++ [response] }

/-- One pass of `for (const endpoint of Object.keys(serverEndpointsToOrders))`. -/
def requestStep (w : CoordinatorWrapper) (tx : SignedZeroExTransaction) (txOrigin : Address)
    (acc : Responses) (endpoint : Endpoint) : Async Responses := do
  let response ← w.executeServerRequest tx txOrigin endpoint
  pure (acc.push response)

def requestLoop (w : CoordinatorWrapper) (tx : SignedZeroExTransaction) (txOrigin : Address)
    (keys : List Endpoint) : Async Responses :=
  keys.foldlM (requestStep w tx txOrigin) ⟨[], []⟩

/-- `formatRawResponse(resp.body as CoordinatorServerApprovalRawResponse)`: the signatures, and
`Array(signatures.length).fill(expirationTimeSeconds)`. An `undefined` body throws when its
`signatures` is read. -/
def formatRawResponse :
    Option CoordinatorServerApprovalRawResponse → Except JsError CoordinatorServerApprovalResponse
  | none => .error (.typeError "signatures")
  | some rawResponse => .ok
    { signatures := rawResponse.signatures
      expirationTimeSeconds :=
        List.replicate rawResponse.signatures.length rawResponse.expirationTimeSeconds }

/-- What `_getCoordinatorApprovalsAsync` returns. -/
structure CoordinatorApprovals where
  coordinatorApprovalSignatures : List String
  coordinatorExpirationTimes : List Nat
  signedZeroExTransaction : SignedZeroExTransaction

/-- The branch taken when `errorResponses` is empty: lodash `flatten` of the formatted
approvals' signatures, and of their expiration times. -/
def concatApprovals (approvalResponses : List CoordinatorServerResponse)
    (signedZeroExTransaction : SignedZeroExTransaction) : Except JsError CoordinatorApprovals := do
  let allApprovals ← approvalResponses.mapM fun resp => formatRawResponse resp.body
  let allSignatures := (allApprovals.map (·.signatures)).flatten
  let allExpirationTimes := (allApprovals.map (·.expirationTimeSeconds)).flatten
  pure ⟨allSignatures, allExpirationTimes, signedZeroExTransaction⟩

/-- lodash `flatten` on `(SignedOrder[] | undefined)[]`: arrays are spread, `undefined` stays. -/
def flattenGroups : List (Option (List SignedOrder)) → List (Option SignedOrder)
  | [] => []
  | some os :: rest => os.map some ++ flattenGroups rest
  | none :: rest => none :: flattenGroups rest

/-- `signedOrders.filter(o => o.senderAddress === coordinatorAddress)`. -/
def coordinatorOrders (coordinatorAddress : Address) (signedOrders : List SignedOrder) :
    List SignedOrder :=
  signedOrders.filter fun o => o.senderAddress == coordinatorAddress

/-- `signedOrders.filter(o => o.senderAddress !== coordinatorAddress)`. -/
def notCoordinatorOrders (coordinatorAddress : Address) (signedOrders : List SignedOrder) :
    List SignedOrder :=
  signedOrders.filter fun o => o.senderAddress != coordinatorAddress

/-- The `CoordinatorServerError` of the branch taken when some response is an error.
`flatten(approvedOrdersNested.concat(notCoordinatorOrders))` spreads the looked-up groups and
keeps the orders of `notCoordinatorOrders`, appended one by one by `concat`, in place. -/
def fillFailedError (signedOrders : List SignedOrder) (coordinatorAddress : Address)
    (serverEndpointsToOrders : EndpointMap) (responses : Responses) : CoordinatorServerError :=
  let approvedOrdersNested := responses.approvalResponses.map fun resp =>
    serverEndpointsToOrders.get? resp.coordinatorOperator
  let approvedOrders :=
    flattenGroups approvedOrdersNested ++ (notCoordinatorOrders coordinatorAddress signedOrders).map some
  let errorsWithOrders := responses.errorResponses.map fun resp =>
    { resp with orders := serverEndpointsToOrders.get? resp.coordinatorOperator }
  { message := .fillFailed
    approvedOrders := approvedOrders
    cancellations := []
    errors := errorsWithOrders }

def getCoordinatorApprovalsAsync (w : CoordinatorWrapper) (signedOrders : List SignedOrder)
    (signedZeroExTransaction : SignedZeroExTransaction) : Async CoordinatorApprovals := do
  let serverEndpointsToOrders ←
    w.mapServerEndpointsToOrders (coordinatorOrders w.address signedOrders)
  let txOrigin := signedZeroExTransaction.signerAddress
  let responses ← requestLoop w signedZeroExTransaction txOrigin serverEndpointsToOrders.keys
  if responses.errorResponses.length = 0 then
    .lift (concatApprovals responses.approvalResponses signedZeroExTransaction)
  else
    throw (.coordinatorServerError
      (fillFailedError signedOrders w.address serverEndpointsToOrders responses))

/-! ## Spec lemmas -/

section Loop

variable {w : CoordinatorWrapper} {tx : SignedZeroExTransaction} {txOrigin : Address}

theorem foldl_push (rs : List CoordinatorServerResponse) (acc : Responses) :
    rs.foldl Responses.push acc =
      ⟨acc.errorResponses ++ rs.filter (·.isError),
        acc.approvalResponses ++ rs.filter (!·.isError)⟩ := by
  induction rs generalizing acc with
  | nil => simp
  | cons r rs ih =>
    rw [List.foldl_cons, ih]
    cases h : r.isError <;> simp [Responses.push, h]

theorem requestStep_eq (acc : Responses) (e : Endpoint) :
    requestStep w tx txOrigin acc e =
      Async.call (.executeServerRequest tx txOrigin e) (w.executeServerRequestAsync tx txOrigin e) >>=
        fun response => pure (acc.push response) := rfl

/-- The loop when every request settles with a response: one request per key, in key order. -/
theorem foldlM_requestStep_ok {respond : Endpoint → CoordinatorServerResponse} {keys : List Endpoint}
    (h : ∀ e ∈ keys, w.executeServerRequestAsync tx txOrigin e = .ok (respond e)) (acc : Responses) :
    keys.foldlM (requestStep w tx txOrigin) acc =
      ⟨keys.map (.executeServerRequest tx txOrigin), .ok ((keys.map respond).foldl Responses.push acc)⟩ := by
  induction keys generalizing acc with
  | nil => rfl
  | cons e keys ih =>
    rw [List.foldlM_cons, requestStep_eq, Async.call_def, h e (List.mem_cons_self _ _)]
    simp [ih fun e' he' => h e' (List.mem_cons_of_mem _ he')]

/-- The loop when the request to `e` rejects after those before it settled: no request after
`e` is made, and the rejection is the loop's. -/
theorem foldlM_requestStep_error {respond : Endpoint → CoordinatorServerResponse}
    {pre post : List Endpoint} {e : Endpoint} {x : JsError}
    (h : ∀ e ∈ pre, w.executeServerRequestAsync tx txOrigin e = .ok (respond e))
    (he : w.executeServerRequestAsync tx txOrigin e = .error x) (acc : Responses) :
    (pre ++ e :: post).foldlM (requestStep w tx txOrigin) acc =
      ⟨(pre ++ [e]).map (.executeServerRequest tx txOrigin), .error x⟩ := by
  induction pre generalizing acc with
  | nil => simp [requestStep_eq, he]
  | cons e' pre ih =>
    rw [List.cons_append, List.foldlM_cons, requestStep_eq, Async.call_def,
      h e' (List.mem_cons_self _ _)]
    simp [ih fun e'' he'' => h e'' (List.mem_cons_of_mem _ he'')]

theorem foldlM_requestStep_answered {keys : List Endpoint} {acc r : Responses}
    (h : (keys.foldlM (requestStep w tx txOrigin) acc).result = .ok r) :
    ∀ e ∈ keys, ∃ response, w.executeServerRequestAsync tx txOrigin e = .ok response := by
  induction keys generalizing acc with
  | nil => simp
  | cons e keys ih =>
    rw [List.foldlM_cons, requestStep_eq] at h
    obtain ⟨acc', h1, h2⟩ := Async.result_ok_of_bind h
    obtain ⟨response, hr, -⟩ := Async.result_ok_of_bind h1
    simp only [CoordinatorWrapper.executeServerRequest, Async.call_def] at hr
    intro e' he'
    rcases List.mem_cons.mp he' with rfl | he'
    · exact ⟨response, hr⟩
    · exact ih h2 e' he'

theorem requestLoop_ok {respond : Endpoint → CoordinatorServerResponse} {keys : List Endpoint}
    (h : ∀ e ∈ keys, w.executeServerRequestAsync tx txOrigin e = .ok (respond e)) :
    requestLoop w tx txOrigin keys =
      ⟨keys.map (.executeServerRequest tx txOrigin),
        .ok ⟨(keys.map respond).filter (·.isError), (keys.map respond).filter (!·.isError)⟩⟩ := by
  simp [requestLoop, foldlM_requestStep_ok h, foldl_push]

end Loop

theorem zip_replicate_length {α β : Type} (l : List α) (b : β) :
    l.zip (List.replicate l.length b) = l.map (·, b) := by
  induction l <;> simp [List.replicate_succ, *]

theorem mapM_formatRawResponse {rs : List CoordinatorServerResponse}
    {raws : List CoordinatorServerApprovalRawResponse} (h : rs.map (·.body) = raws.map some) :
    rs.mapM (fun resp => formatRawResponse resp.body) =
      .ok (raws.map fun raw =>
        ⟨raw.signatures, List.replicate raw.signatures.length raw.expirationTimeSeconds⟩) := by
  induction rs generalizing raws with
  | nil =>
    obtain _ | ⟨raw, raws⟩ := raws
    · rfl
    · simp at h
  | cons r rs ih =>
    obtain _ | ⟨raw, raws⟩ := raws
    · simp at h
    · simp only [List.map_cons, List.cons.injEq] at h
      rw [List.mapM_cons, ih h.2, h.1]
      rfl

/-- The all-approved branch when every approval carries a body: the bodies' signatures in
order, each paired with the expiration time of its own body. -/
theorem concatApprovals_eq {rs : List CoordinatorServerResponse}
    {raws : List CoordinatorServerApprovalRawResponse} (h : rs.map (·.body) = raws.map some)
    (tx : SignedZeroExTransaction) :
    concatApprovals rs tx =
      .ok ⟨raws.flatMap (·.signatures),
        raws.flatMap fun r => List.replicate r.signatures.length r.expirationTimeSeconds, tx⟩ := by
  rw [concatApprovals, mapM_formatRawResponse h]
  simp [List.flatMap, Function.comp_def]

theorem mapM_formatRawResponse_cases (rs : List CoordinatorServerResponse) :
    (∃ raws : List CoordinatorServerApprovalRawResponse, rs.map (·.body) = raws.map some) ∨
      rs.mapM (fun resp => formatRawResponse resp.body) = .error (.typeError "signatures") := by
  induction rs with
  | nil => exact .inl ⟨[], rfl⟩
  | cons r rs ih =>
    cases hb : r.body with
    | none => exact .inr (by rw [List.mapM_cons, hb]; rfl)
    | some raw =>
      rcases ih with ⟨raws, h⟩ | h
      · exact .inl ⟨raw :: raws, by simp [hb, h]⟩
      · exact .inr (by rw [List.mapM_cons, hb, h]; rfl)

theorem concatApprovals_cases (rs : List CoordinatorServerResponse) (tx : SignedZeroExTransaction) :
    (∃ raws : List CoordinatorServerApprovalRawResponse, rs.map (·.body) = raws.map some ∧
        concatApprovals rs tx = .ok ⟨raws.flatMap (·.signatures),
          raws.flatMap fun r => List.replicate r.signatures.length r.expirationTimeSeconds, tx⟩) ∨
      concatApprovals rs tx = .error (.typeError "signatures") := by
  rcases mapM_formatRawResponse_cases rs with ⟨raws, h⟩ | h
  · exact .inl ⟨raws, h, concatApprovals_eq h tx⟩
  · exact .inr (by rw [concatApprovals, h]; rfl)

section Run

variable {w : CoordinatorWrapper} {signedOrders : List SignedOrder} {tx : SignedZeroExTransaction}
  {M : EndpointMap} {respond : Endpoint → CoordinatorServerResponse}

/-- The method in closed form when every request settles with a response: the endpoint map is
asked for, one request goes to every key in key order, and the branch is chosen by the error
responses. -/
theorem getCoordinatorApprovalsAsync_eq
    (hmap : w.mapServerEndpointsToOrdersAsync (coordinatorOrders w.address signedOrders) = .ok M)
    (hsend : ∀ e ∈ M.keys, w.executeServerRequestAsync tx tx.signerAddress e = .ok (respond e)) :
    getCoordinatorApprovalsAsync w signedOrders tx =
      ⟨.mapServerEndpointsToOrders (coordinatorOrders w.address signedOrders) ::
          M.keys.map (.executeServerRequest tx tx.signerAddress),
        let rs := M.keys.map respond
        if (rs.filter (·.isError)).length = 0 then concatApprovals (rs.filter (!·.isError)) tx
        else .error (.coordinatorServerError (fillFailedError signedOrders w.address M
          ⟨rs.filter (·.isError), rs.filter (!·.isError)⟩))⟩ := by
  simp only [getCoordinatorApprovalsAsync, CoordinatorWrapper.mapServerEndpointsToOrders,
    Async.call_def, hmap, Async.ok_bind, requestLoop_ok hsend]
  split <;> simp

/-- The method when the request to `e` rejects: the requests before it were made, none after
it, and the rejection propagates as it is. -/
theorem getCoordinatorApprovalsAsync_reject {pre post : List Endpoint} {e : Endpoint} {x : JsError}
    (hmap : w.mapServerEndpointsToOrdersAsync (coordinatorOrders w.address signedOrders) = .ok M)
    (hkeys : M.keys = pre ++ e :: post)
    (hpre : ∀ e ∈ pre, w.executeServerRequestAsync tx tx.signerAddress e = .ok (respond e))
    (he : w.executeServerRequestAsync tx tx.signerAddress e = .error x) :
    getCoordinatorApprovalsAsync w signedOrders tx =
      ⟨.mapServerEndpointsToOrders (coordinatorOrders w.address signedOrders) ::
          (pre ++ [e]).map (.executeServerRequest tx tx.signerAddress), .error x⟩ := by
  simp only [getCoordinatorApprovalsAsync, CoordinatorWrapper.mapServerEndpointsToOrders,
    Async.call_def, hmap, Async.ok_bind, requestLoop, hkeys, foldlM_requestStep_error hpre he]
  simp

end Run

end CoordinatorSwap

import CoordinatorSwap.Consumer
import CoordinatorSwap.ApprovalLaws

/-!
# What the consumer hands to the Coordinator contract

Both public methods pass `executeTransaction` the two lists `_getCoordinatorApprovalsAsync`
returned, and those lists have one length whatever the servers answered: `getCalldataOrThrowAsync`
encodes such lists, and every `executeTransaction` call or send that
`executeSwapQuoteOrThrowAsync` awaits carries such lists.

A request that rejects is not turned into a refusal: the rejection leaves
`_getCoordinatorApprovalsAsync` unchanged, `getCalldataOrThrowAsync` throws it, and
`executeSwapQuoteOrThrowAsync`, once its asserts passed, throws what its `catch` makes of it,
without calling the contract (`approvals_error_propagates` for any error the approvals throw).

The contract is reached only one way: `executeSwapQuoteOrThrowAsync` sends as its last call,
right after a simulation of the same call that succeeded (`executeSwapQuoteOrThrowAsync_send`).
When the transaction is signed and every server approves, the whole run is known call by call
(`executeSwapQuoteOrThrowAsync_all_approve`, `getCalldataOrThrowAsync_all_approve`). When a
server refuses, the `CoordinatorServerError` reaches the caller unchanged unless its text names
one of the markers the `catch` looks for (`coordinatorServerError_reaches_caller`).

Over every run, whatever the collaborators answer: all calls concern one signed transaction
(`run_concerns_one_transaction`), which is the taker's with the signature the signer returned
(`only_signed_transactions_leave`); the contract is called only with the approval of every
server and exactly their signatures (`contract_calls_fully_approved`, from the inversion
`getCoordinatorApprovalsAsync_ok_inv`); and the `catch` lets out no unmapped error that names
one of its markers (`executeSwapQuoteOrThrowAsync_throws`). Each run-wide call property is
derived once from `allCalls_executeSwapQuoteOrThrowAsync_of` and
`allCalls_getCalldataOrThrowAsync_of`.
-/

namespace CoordinatorSwap

/-- An `executeTransaction` call whose two approval lists have one length; any other call. -/
def Call.ApprovalLengthsAgree : Call → Prop
  | .executeTransactionCall args _ | .executeTransactionSend args _ =>
    args.approvalExpirationTimeSeconds.length = args.approvalSignatures.length
  | _ => True

namespace CoordinatorSwapQuoteConsumer

variable (c : CoordinatorSwapQuoteConsumer)

@[simp] theorem calls_assertIsValidSwapQuote (variableName : String) (quote : SwapQuote) :
    (c.assertIsValidSwapQuote variableName quote).calls = [] := rfl

@[simp] theorem calls_assertIsETHAddressHex (variableName : String) (value : Option Address) :
    (c.assertIsETHAddressHex variableName value).calls = [] := by
  cases value <;> rfl

@[simp] theorem calls_assertIfDefined {α : Type} (test : α → Bool) (variableName typeName : String)
    (value? : Option α) : (c.assertIfDefined test variableName typeName value?).calls = [] := rfl

theorem assertIfDefined_of_all {α : Type} {test : α → Bool} {value? : Option α}
    (variableName typeName : String) (h : value?.all test = true) :
    c.assertIfDefined test variableName typeName value? = pure () := by
  simp [assertIfDefined, h]

theorem assertGas_of_gasOptsPass {opts : SwapQuoteExecutionOpts} (h : c.gasOptsPass opts = true) :
    c.assertGasLimitIfDefined opts.gasLimit = pure () ∧
      c.assertGasPriceIfDefined opts.gasPrice = pure () := by
  simp only [gasOptsPass, Bool.and_eq_true] at h
  exact ⟨c.assertIfDefined_of_all _ _ h.1, c.assertIfDefined_of_all _ _ h.2⟩

/-- Building the exchange call awaits nothing. -/
@[simp] theorem calls_getSmartContractParamsOrThrowAsync (quote : SwapQuote) :
    (c.getSmartContractParamsOrThrowAsync quote).calls = [] := by
  unfold getSmartContractParamsOrThrowAsync assertIsValidSwapQuote
  cases c.isValidSwapQuote quote <;> cases quote <;> rfl

theorem getSmartContractParamsOrThrowAsync_ok {quote : SwapQuote}
    (h : c.isValidSwapQuote quote = true) :
    ∃ p, c.getSmartContractParamsOrThrowAsync quote = ⟨[], .ok p⟩ := by
  unfold getSmartContractParamsOrThrowAsync assertIsValidSwapQuote
  cases quote <;> simp [h]

/-- Building the signed transaction awaits only the signer. -/
theorem allCalls_getCoordinatorZeroExTransactionAsync (quote : SwapQuote)
    (takerAddress? : Option Address) :
    Async.AllCalls (fun call => ∃ t a, call = .ecSignTransaction t a)
      (c.getCoordinatorZeroExTransactionAsync quote takerAddress?) := by
  unfold getCoordinatorZeroExTransactionAsync
  exact .bind_nil rfl fun _ => .bind_nil (by simp) fun _ => .bind_nil (by simp) fun _ =>
    .bind (by simp) fun _ _ => by simp

/-- What `_getCoordinatorZeroExTransactionAsync` can do: throw before any call, or build a
transaction for a valid quote and a hex taker and ask the signer once, returning it with the
signature. -/
theorem getCoordinatorZeroExTransactionAsync_cases (quote : SwapQuote)
    (takerAddress? : Option Address) :
    (∃ x, c.getCoordinatorZeroExTransactionAsync quote takerAddress? = ⟨[], .error x⟩) ∨
    ∃ t : ZeroExTransaction, c.isValidSwapQuote quote = true ∧
      takerAddress? = some t.signerAddress ∧ c.isETHAddressHex t.signerAddress = true ∧
      c.getCoordinatorZeroExTransactionAsync quote takerAddress? =
        ⟨[.ecSignTransaction t t.signerAddress],
          (c.ecSignTransactionAsync t t.signerAddress).map fun signature =>
            { t with signature := signature }⟩ := by
  unfold getCoordinatorZeroExTransactionAsync
  cases hq : c.isValidSwapQuote quote
  · exact .inl ⟨c.assertionFailed "quote" "SwapQuote", by simp [assertIsValidSwapQuote, hq]⟩
  obtain ⟨p, hp⟩ := c.getSmartContractParamsOrThrowAsync_ok hq
  cases takerAddress? with
  | none => exact .inl ⟨c.assertionFailed "opts.takerAddress" "string",
    by simp [assertIsValidSwapQuote, hq, assertIsETHAddressHex]⟩
  | some a =>
    cases hhex : c.isETHAddressHex a
    · exact .inl ⟨c.assertionFailed "opts.takerAddress" "ETHAddressHex",
        by simp [assertIsValidSwapQuote, hq, assertIsETHAddressHex, hhex]⟩
    · refine .inr ⟨⟨c.salt, a, zeroExOperation p.params, c.exchangeAddress⟩, rfl, rfl, hhex, ?_⟩
      simp only [assertIsValidSwapQuote, hq, assertIsETHAddressHex, hhex, hp, Async.lift_def,
        if_true, Async.ok_bind, Async.call_def]
      cases c.ecSignTransactionAsync _ a <;> rfl

/-- A built transaction: the quote and the taker passed their asserts, and the signer was asked
once, about the transaction and its signer, and returned the transaction's signature. -/
theorem getCoordinatorZeroExTransactionAsync_ok_inv {quote : SwapQuote}
    {takerAddress? : Option Address} {stx : SignedZeroExTransaction}
    (h : (c.getCoordinatorZeroExTransactionAsync quote takerAddress?).result = .ok stx) :
    c.isValidSwapQuote quote = true ∧ takerAddress? = some stx.signerAddress ∧
      c.isETHAddressHex stx.signerAddress = true ∧
      c.ecSignTransactionAsync stx.toZeroExTransaction stx.signerAddress = .ok stx.signature ∧
      (c.getCoordinatorZeroExTransactionAsync quote takerAddress?).calls =
        [.ecSignTransaction stx.toZeroExTransaction stx.signerAddress] := by
  rcases c.getCoordinatorZeroExTransactionAsync_cases quote takerAddress? with
    ⟨x, htx⟩ | ⟨t, hq, ha, hhex, htx⟩ <;> rw [htx] at h ⊢
  · cases h
  · cases hs : c.ecSignTransactionAsync t t.signerAddress <;> rw [hs] at h <;> cases h
    exact ⟨hq, ha, hhex, hs, rfl⟩

/-- A property of calls holds along every run of `executeSwapQuoteOrThrowAsync` once it holds
of the calls building the transaction, of the approval calls for the transaction built, and of
the two contract calls with the approvals returned. -/
theorem allCalls_executeSwapQuoteOrThrowAsync_of {P : Call → Prop} {quote : SwapQuote}
    {opts : SwapQuoteExecutionOpts}
    (htx : Async.AllCalls P (c.getCoordinatorZeroExTransactionAsync quote opts.takerAddress))
    (happrovals : ∀ stx,
      (c.getCoordinatorZeroExTransactionAsync quote opts.takerAddress).result = .ok stx →
        Async.AllCalls P (getCoordinatorApprovalsAsync c.coordinator (quote.orders ++ quote.feeOrders) stx))
    (hcontract : ∀ stx v,
      (c.getCoordinatorZeroExTransactionAsync quote opts.takerAddress).result = .ok stx →
      (getCoordinatorApprovalsAsync c.coordinator (quote.orders ++ quote.feeOrders) stx).result =
        .ok v →
        P (.executeTransactionCall (executeTransactionArgs stx v) stx.signerAddress) ∧
          P (.executeTransactionSend (executeTransactionArgs stx v) stx.signerAddress)) :
    Async.AllCalls P (c.executeSwapQuoteOrThrowAsync quote opts) :=
  .bind_nil rfl fun _ => .bind_nil rfl fun _ => .bind_nil rfl fun _ => .bind_nil rfl fun _ =>
    Async.AllCalls.tryCatch (Async.AllCalls.bind htx fun stx hs =>
      Async.AllCalls.bind (happrovals stx hs) fun v hv =>
        Async.AllCalls.bind (by simp [(hcontract stx v hs hv).1]) fun _ _ =>
          by simp [(hcontract stx v hs hv).2]) fun _ => by simp

/-- The same for `getCalldataOrThrowAsync`, which makes no contract call. -/
theorem allCalls_getCalldataOrThrowAsync_of {P : Call → Prop} {quote : SwapQuote}
    {takerAddress? : Option Address}
    (htx : Async.AllCalls P (c.getCoordinatorZeroExTransactionAsync quote takerAddress?))
    (happrovals : ∀ stx,
      (c.getCoordinatorZeroExTransactionAsync quote takerAddress?).result = .ok stx →
        Async.AllCalls P (getCoordinatorApprovalsAsync c.coordinator (quote.orders ++ quote.feeOrders) stx)) :
    Async.AllCalls P (c.getCalldataOrThrowAsync quote takerAddress?) :=
  Async.AllCalls.bind htx fun stx hs => .bind_nil (by simp) fun _ =>
    Async.AllCalls.bind (happrovals stx hs) fun _ _ => by simp

/-- A returned calldata encodes the transaction built and the approvals returned. -/
theorem getCalldataOrThrowAsync_ok {quote : SwapQuote} {takerAddress? : Option Address}
    {info : CalldataInfo} (h : (c.getCalldataOrThrowAsync quote takerAddress?).result = .ok info) :
    ∃ stx v, (c.getCoordinatorZeroExTransactionAsync quote takerAddress?).result = .ok stx ∧
      (getCoordinatorApprovalsAsync c.coordinator (quote.orders ++ quote.feeOrders) stx).result =
        .ok v ∧ info.calldataHexString = executeTransactionArgs stx v := by
  obtain ⟨stx, hs, h⟩ := Async.result_ok_of_bind h
  obtain ⟨p, -, h⟩ := Async.result_ok_of_bind h
  obtain ⟨v, hv, h⟩ := Async.result_ok_of_bind h
  cases h
  exact ⟨stx, v, hs, hv, rfl⟩

/-- Every `executeTransaction` call or send of `executeSwapQuoteOrThrowAsync` carries two
approval lists of one length. -/
theorem allCalls_approvalLengthsAgree (quote : SwapQuote) (opts : SwapQuoteExecutionOpts) :
    Async.AllCalls Call.ApprovalLengthsAgree (c.executeSwapQuoteOrThrowAsync quote opts) :=
  c.allCalls_executeSwapQuoteOrThrowAsync_of
    ((c.allCalls_getCoordinatorZeroExTransactionAsync quote _).mono fun call ⟨t, a, h⟩ => by
      simp [h, Call.ApprovalLengthsAgree])
    (fun _ _ => (allCalls_getCoordinatorApprovalsAsync _ _ _).mono fun call h => by
      cases call <;> simp_all [Call.IsCoordinatorQuery, Call.ApprovalLengthsAgree])
    fun _ _ _ hv => by
      simp [Call.ApprovalLengthsAgree, executeTransactionArgs,
        (getCoordinatorApprovalsAsync_length_eq hv).1]

/-- An error thrown by `_getCoordinatorApprovalsAsync` once the transaction is signed:
`getCalldataOrThrowAsync` throws it as it is, and `executeSwapQuoteOrThrowAsync`, whose gas
options pass their asserts, throws what its `catch` makes of it, with no call after the
approvals. -/
theorem approvals_error_propagates {quote : SwapQuote} {opts : SwapQuoteExecutionOpts}
    {stx : SignedZeroExTransaction} {x : JsError}
    (htx : (c.getCoordinatorZeroExTransactionAsync quote opts.takerAddress).result = .ok stx)
    (hgas : c.gasOptsPass opts = true)
    (happ : (getCoordinatorApprovalsAsync c.coordinator (quote.orders ++ quote.feeOrders)
      stx).result = .error x) :
    (c.getCalldataOrThrowAsync quote opts.takerAddress).result = .error x ∧
    c.executeSwapQuoteOrThrowAsync quote opts =
      ⟨(c.getCoordinatorZeroExTransactionAsync quote opts.takerAddress).calls ++
        (getCoordinatorApprovalsAsync c.coordinator (quote.orders ++ quote.feeOrders) stx).calls,
        .error (c.texts.rethrow x)⟩ := by
  obtain ⟨hq, ha, hhex, -, -⟩ := c.getCoordinatorZeroExTransactionAsync_ok_inv htx
  obtain ⟨p, hp⟩ := c.getSmartContractParamsOrThrowAsync_ok hq
  obtain ⟨hlimit, hprice⟩ := c.assertGas_of_gasOptsPass hgas
  constructor
  · simp [getCalldataOrThrowAsync, Async.bind_of_ok htx, hp, Async.bind_of_error happ]
  · rw [executeSwapQuoteOrThrowAsync, Async.tryCatch_throw, hlimit, hprice]
    rw [ha] at htx ⊢
    simp [assertIsValidSwapQuote, hq, assertTakerAddressIfDefined, assertIfDefined, hhex,
      Async.bind_of_ok htx, Async.bind_of_error happ, Except.mapError]

end CoordinatorSwapQuoteConsumer

section Runs

variable {w : CoordinatorWrapper} {signedOrders : List SignedOrder} {tx : SignedZeroExTransaction}
  {M : EndpointMap} {respond : Endpoint → CoordinatorServerResponse}

theorem coordinatorApprovals_aligned
    (hmap : w.mapServerEndpointsToOrdersAsync (coordinatorOrders w.address signedOrders) = .ok M)
    (hsend : ∀ e ∈ M.keys, w.executeServerRequestAsync tx tx.signerAddress e = .ok (respond e))
    (hbody : ∀ e ∈ M.keys, (respond e).isError = false → (respond e).body.isSome) :
    (let run := getCoordinatorApprovalsAsync w signedOrders tx
     let raws := ((M.keys.map respond).filter (!·.isError)).filterMap (·.body)
     ((∃ v, run.result = .ok v) ↔ ∀ e ∈ M.keys, (respond e).isError = false) ∧
     ∀ v, run.result = .ok v →
       v.coordinatorApprovalSignatures = raws.flatMap (·.signatures) ∧
       v.coordinatorExpirationTimes.length = v.coordinatorApprovalSignatures.length ∧
       v.coordinatorApprovalSignatures.zip v.coordinatorExpirationTimes =
         raws.flatMap (fun r => r.signatures.map (·, r.expirationTimeSeconds)) ∧
       v.signedZeroExTransaction = tx) ∧
    (M.keys = [] → getCoordinatorApprovalsAsync w signedOrders tx =
      ⟨[.mapServerEndpointsToOrders (coordinatorOrders w.address signedOrders)], .ok ⟨[], [], tx⟩⟩) ∧
    (∀ (c : CoordinatorSwapQuoteConsumer) quote takerAddress? (info : CalldataInfo),
      (c.getCalldataOrThrowAsync quote takerAddress?).result = .ok info →
        info.calldataHexString.approvalExpirationTimeSeconds.length =
          info.calldataHexString.approvalSignatures.length) ∧
    ∀ (c : CoordinatorSwapQuoteConsumer) quote opts,
      Async.AllCalls Call.ApprovalLengthsAgree (c.executeSwapQuoteOrThrowAsync quote opts) :=
  ⟨getCoordinatorApprovalsAsync_approvals hmap hsend hbody,
    getCoordinatorApprovalsAsync_no_endpoints hmap,
    fun c _ _ _ h => by
      obtain ⟨_, _, -, hv, hinfo⟩ := c.getCalldataOrThrowAsync_ok h
      rw [hinfo]
      exact (getCoordinatorApprovalsAsync_length_eq hv).1,
    fun c quote opts => c.allCalls_approvalLengthsAgree quote opts⟩

theorem coordinatorApprovals_aligned_one_server :
    (let run := getCoordinatorApprovalsAsync (oneServer approval) sampleOrders sampleTx
     let raws := (((oneServerMap (coordinatorOrders "0xc0" sampleOrders)).keys.map approval).filter
       (!·.isError)).filterMap (·.body)
     ((∃ v, run.result = .ok v) ↔
        ∀ e ∈ (oneServerMap (coordinatorOrders "0xc0" sampleOrders)).keys, (approval e).isError = false) ∧
     ∀ v, run.result = .ok v →
       v.coordinatorApprovalSignatures = raws.flatMap (·.signatures) ∧
       v.coordinatorExpirationTimes.length = v.coordinatorApprovalSignatures.length ∧
       v.coordinatorApprovalSignatures.zip v.coordinatorExpirationTimes =
         raws.flatMap (fun r => r.signatures.map (·, r.expirationTimeSeconds)) ∧
       v.signedZeroExTransaction = sampleTx) ∧
    ((oneServerMap (coordinatorOrders "0xc0" sampleOrders)).keys = [] →
      getCoordinatorApprovalsAsync (oneServer approval) sampleOrders sampleTx =
        ⟨[.mapServerEndpointsToOrders (coordinatorOrders "0xc0" sampleOrders)], .ok ⟨[], [], sampleTx⟩⟩) ∧
    (∀ (c : CoordinatorSwapQuoteConsumer) quote takerAddress? (info : CalldataInfo),
      (c.getCalldataOrThrowAsync quote takerAddress?).result = .ok info →
        info.calldataHexString.approvalExpirationTimeSeconds.length =
          info.calldataHexString.approvalSignatures.length) ∧
    ∀ (c : CoordinatorSwapQuoteConsumer) quote opts,
      Async.AllCalls Call.ApprovalLengthsAgree (c.executeSwapQuoteOrThrowAsync quote opts) :=
  coordinatorApprovals_aligned rfl (fun _ _ => rfl) fun _ _ _ => rfl

/-- A rejected request ends the loop and is thrown as it is, through both public methods. -/
theorem request_rejection_propagates {c : CoordinatorSwapQuoteConsumer} {quote : SwapQuote}
    {opts : SwapQuoteExecutionOpts} {stx : SignedZeroExTransaction} {pre post : List Endpoint}
    {e : Endpoint} {x : JsError}
    (htx : (c.getCoordinatorZeroExTransactionAsync quote opts.takerAddress).result = .ok stx)
    (hgas : c.gasOptsPass opts = true)
    (hmap : c.coordinator.mapServerEndpointsToOrdersAsync
      (coordinatorOrders c.coordinator.address (quote.orders ++ quote.feeOrders)) = .ok M)
    (hkeys : M.keys = pre ++ e :: post)
    (hpre : ∀ e ∈ pre, c.coordinator.executeServerRequestAsync stx stx.signerAddress e = .ok (respond e))
    (he : c.coordinator.executeServerRequestAsync stx stx.signerAddress e = .error x) :
    getCoordinatorApprovalsAsync c.coordinator (quote.orders ++ quote.feeOrders) stx =
      ⟨.mapServerEndpointsToOrders (coordinatorOrders c.coordinator.address (quote.orders ++ quote.feeOrders)) ::
        (pre ++ [e]).map (.executeServerRequest stx stx.signerAddress), .error x⟩ ∧
    (c.getCalldataOrThrowAsync quote opts.takerAddress).result = .error x ∧
    c.executeSwapQuoteOrThrowAsync quote opts =
      ⟨(c.getCoordinatorZeroExTransactionAsync quote opts.takerAddress).calls ++
        .mapServerEndpointsToOrders (coordinatorOrders c.coordinator.address (quote.orders ++ quote.feeOrders)) ::
        (pre ++ [e]).map (.executeServerRequest stx stx.signerAddress), .error (c.texts.rethrow x)⟩ := by
  have happ := getCoordinatorApprovalsAsync_reject hmap hkeys hpre he
  obtain ⟨hcalldata, hrun⟩ := c.approvals_error_propagates htx hgas (by rw [happ])
  exact ⟨happ, hcalldata, by rw [hrun, happ]⟩

/-! ### A coordinator with an unreachable server -/

/-- Two orders sent through the Coordinator contract `0xc0`. -/
def pairOrders : List SignedOrder := [⟨"0xc0", "0xs1"⟩, ⟨"0xc0", "0xs4"⟩]

def pairTx : SignedZeroExTransaction :=
  { salt := 1, signerAddress := "0xt0", data := .marketSellOrdersNoThrow pairOrders 10 ["0xs1", "0xs4"],
    verifyingContractAddress := "0xe0", signature := "0xts" }

/-- The coordinator `0xc0` whose server `https://a` cannot be reached. -/
def firstUnreachable : CoordinatorWrapper where
  address := "0xc0"
  mapServerEndpointsToOrdersAsync os := .ok (twoServerMap os)
  executeServerRequestAsync _ _ e :=
    if e = "https://a" then .error (.error "ECONNREFUSED") else .ok (approval e)

/-- The coordinator `0xc0` whose server `https://a` approves and `https://b` cannot be reached. -/
def secondUnreachable : CoordinatorWrapper where
  address := "0xc0"
  mapServerEndpointsToOrdersAsync os := .ok (twoServerMap os)
  executeServerRequestAsync _ _ e :=
    if e = "https://b" then .error (.error "ECONNREFUSED") else .ok (approval e)

/-- A consumer whose signer, chain and asserts succeed, on a finite `gasLimit`. -/
def sampleConsumer (coordinator : CoordinatorWrapper) : CoordinatorSwapQuoteConsumer where
  coordinator := coordinator
  exchangeAddress := "0xe0"
  salt := 1
  ecSignTransactionAsync _ _ := .ok "0xts"
  executeTransactionCallAsync _ _ := .ok ()
  executeTransactionSendAsync _ _ := .ok "0xh"
  optimizeOrdersForMarketExchangeOperation os _ := os
  isValidSwapQuote _ := true
  isETHAddressHex _ := true
  isNumber n := match n with
    | .finite _ => true
    | _ => false
  isBigNumber _ := true
  assertionFailed variableName type := .error (variableName ++ " " ++ type)
  texts := ⟨"COMPLETE_FILL_FAILED", "SIGNATURE_REQUEST_DENIED", "TRANSACTION_VALUE_TOO_LOW",
    fun _ => "FillFailed", fun property => property⟩

theorem request_rejection_second_server :
    getCoordinatorApprovalsAsync secondUnreachable pairOrders pairTx =
      ⟨.mapServerEndpointsToOrders (coordinatorOrders "0xc0" pairOrders) ::
        (["https://a"] ++ ["https://b"]).map (.executeServerRequest pairTx pairTx.signerAddress),
        .error (.error "ECONNREFUSED")⟩ ∧
    ((sampleConsumer secondUnreachable).getCalldataOrThrowAsync (.marketSell pairOrders [] 10)
      (some "0xt0")).result = .error (.error "ECONNREFUSED") ∧
    (sampleConsumer secondUnreachable).executeSwapQuoteOrThrowAsync (.marketSell pairOrders [] 10)
        ⟨some "0xt0", none, none⟩ =
      ⟨((sampleConsumer secondUnreachable).getCoordinatorZeroExTransactionAsync
          (.marketSell pairOrders [] 10) (some "0xt0")).calls ++
        .mapServerEndpointsToOrders (coordinatorOrders "0xc0" pairOrders) ::
        (["https://a"] ++ ["https://b"]).map (.executeServerRequest pairTx pairTx.signerAddress),
        .error ((sampleConsumer secondUnreachable).texts.rethrow (.error "ECONNREFUSED"))⟩ :=
  @request_rejection_propagates _ approval (sampleConsumer secondUnreachable)
    (.marketSell pairOrders [] 10) ⟨some "0xt0", none, none⟩ pairTx ["https://a"] [] "https://b"
    (.error "ECONNREFUSED") rfl rfl rfl rfl (fun e he => by rw [List.mem_singleton.mp he]; rfl) rfl

/-- An unreachable server is not turned into a refusal: the server after it is never asked, and
the transport error itself is thrown. -/
theorem unreachable_server_not_contained :
    let run := getCoordinatorApprovalsAsync firstUnreachable pairOrders pairTx
    Call.executeServerRequest pairTx pairTx.signerAddress "https://b" ∉ run.calls ∧
      run.result = .error (.error "ECONNREFUSED") :=
  ⟨by decide, rfl⟩

end Runs

/-! ## Sending -/

namespace CoordinatorSwapQuoteConsumer

variable (c : CoordinatorSwapQuoteConsumer)

/-- `executeSwapQuoteOrThrowAsync` sends a transaction only as its last call, right after a
`callAsync` of the same call, from the same address, that succeeded. The transaction is sent
from its signer, with its own signature, and the run ends as the send settles, an error passed
through the `catch`. -/
theorem executeSwapQuoteOrThrowAsync_send {quote : SwapQuote} {opts : SwapQuoteExecutionOpts}
    {args : ExecuteTransactionArgs} {fromAddress : Address}
    (h : Call.executeTransactionSend args fromAddress ∈
      (c.executeSwapQuoteOrThrowAsync quote opts).calls) :
    c.executeTransactionCallAsync args fromAddress = .ok () ∧
    args.txOrigin = fromAddress ∧ args.transaction.signerAddress = fromAddress ∧
    args.transactionSignature = args.transaction.signature ∧
    (∃ pre, (c.executeSwapQuoteOrThrowAsync quote opts).calls =
      pre ++ [.executeTransactionCall args fromAddress, .executeTransactionSend args fromAddress]) ∧
    (c.executeSwapQuoteOrThrowAsync quote opts).result =
      (c.executeTransactionSendAsync args fromAddress).mapError c.texts.rethrow := by
  unfold executeSwapQuoteOrThrowAsync at h ⊢
  rw [Async.tryCatch_throw] at h ⊢
  obtain ⟨_, hq, h⟩ := Async.mem_calls_bind_nil rfl h
  obtain ⟨_, ht, h⟩ := Async.mem_calls_bind_nil rfl h
  obtain ⟨_, hl, h⟩ := Async.mem_calls_bind_nil rfl h
  obtain ⟨_, hp, h⟩ := Async.mem_calls_bind_nil rfl h
  obtain hs | ⟨stx, hstx, h⟩ := Async.mem_calls_bind h
  · obtain ⟨_, _, hs⟩ := c.allCalls_getCoordinatorZeroExTransactionAsync quote _ _ hs
    cases hs
  obtain hv | ⟨v, hv, h⟩ := Async.mem_calls_bind h
  · cases allCalls_getCoordinatorApprovalsAsync _ _ _ _ hv
  obtain hc | ⟨_, hc, h⟩ := Async.mem_calls_bind h
  · simp at hc
  simp only [Async.call_def, List.mem_singleton, Call.executeTransactionSend.injEq] at h hc
  obtain ⟨rfl, rfl⟩ := h
  simp only [Async.bind_of_nil_ok rfl hq, Async.bind_of_nil_ok rfl ht, Async.bind_of_nil_ok rfl hl,
    Async.bind_of_nil_ok rfl hp]
  refine ⟨hc, rfl, rfl, rfl, ?_, ?_⟩ <;>
    simp [Async.bind_of_ok hstx, Async.bind_of_ok hv, hc]
  exact ⟨_, (List.append_assoc _ _ _).symm⟩

end CoordinatorSwapQuoteConsumer

theorem send_after_call_sample :
    let c := sampleConsumer (oneServer approval)
    let run := c.executeSwapQuoteOrThrowAsync (.marketSell pairOrders [] 10) ⟨some "0xt0", none, none⟩
    let args := CoordinatorSwapQuoteConsumer.executeTransactionArgs pairTx ⟨["0xa1", "0xa2"], [1000, 1000], pairTx⟩
    c.executeTransactionCallAsync args "0xt0" = .ok () ∧
    args.txOrigin = "0xt0" ∧ args.transaction.signerAddress = "0xt0" ∧
    args.transactionSignature = args.transaction.signature ∧
    (∃ pre, run.calls =
      pre ++ [.executeTransactionCall args "0xt0", .executeTransactionSend args "0xt0"]) ∧
    run.result = (c.executeTransactionSendAsync args "0xt0").mapError c.texts.rethrow :=
  CoordinatorSwapQuoteConsumer.executeSwapQuoteOrThrowAsync_send _ (by decide)

/-! ## A run where every server approves -/

/-- When the transaction the run builds is signed, the gas options pass their asserts, every
server approves that transaction with a body, and the Coordinator contract accepts the call that
carries every approval, `executeSwapQuoteOrThrowAsync` returns the hash of the sent transaction
after exactly these calls: the signer, the endpoint map, one request per endpoint in key order,
then the simulation and the send of that call. -/
theorem executeSwapQuoteOrThrowAsync_all_approve {c : CoordinatorSwapQuoteConsumer}
    {quote : SwapQuote} {opts : SwapQuoteExecutionOpts} {stx : SignedZeroExTransaction}
    {M : EndpointMap} {respond : Endpoint → CoordinatorServerResponse} {hash : String}
    (hgas : c.gasOptsPass opts = true)
    (htx : (c.getCoordinatorZeroExTransactionAsync quote opts.takerAddress).result = .ok stx)
    (hmap : c.coordinator.mapServerEndpointsToOrdersAsync
      (coordinatorOrders c.coordinator.address (quote.orders ++ quote.feeOrders)) = .ok M)
    (hsend : ∀ e ∈ M.keys,
      c.coordinator.executeServerRequestAsync stx stx.signerAddress e = .ok (respond e))
    (happrove : ∀ e ∈ M.keys, (respond e).isError = false ∧ (respond e).body.isSome)
    (hcall : c.executeTransactionCallAsync
      (CoordinatorSwapQuoteConsumer.executeTransactionArgs stx (allApprovals M respond stx))
      stx.signerAddress = .ok ())
    (hsendTx : c.executeTransactionSendAsync
      (CoordinatorSwapQuoteConsumer.executeTransactionArgs stx (allApprovals M respond stx))
      stx.signerAddress = .ok hash) :
    c.executeSwapQuoteOrThrowAsync quote opts =
      ⟨.ecSignTransaction stx.toZeroExTransaction stx.signerAddress ::
          .mapServerEndpointsToOrders
            (coordinatorOrders c.coordinator.address (quote.orders ++ quote.feeOrders)) ::
          (M.keys.map (.executeServerRequest stx stx.signerAddress) ++
            [.executeTransactionCall
              (CoordinatorSwapQuoteConsumer.executeTransactionArgs stx (allApprovals M respond stx))
              stx.signerAddress,
            .executeTransactionSend
              (CoordinatorSwapQuoteConsumer.executeTransactionArgs stx (allApprovals M respond stx))
              stx.signerAddress]),
        .ok hash⟩ := by
  obtain ⟨hq, ha, hhex, -, hcalls⟩ := c.getCoordinatorZeroExTransactionAsync_ok_inv htx
  obtain ⟨hlimit, hprice⟩ := c.assertGas_of_gasOptsPass hgas
  have happ := getCoordinatorApprovalsAsync_all_approve hmap hsend happrove
  rw [CoordinatorSwapQuoteConsumer.executeSwapQuoteOrThrowAsync, Async.tryCatch_throw, hlimit,
    hprice]
  rw [ha] at htx hcalls ⊢
  simp [CoordinatorSwapQuoteConsumer.assertIsValidSwapQuote, hq,
    CoordinatorSwapQuoteConsumer.assertTakerAddressIfDefined,
    CoordinatorSwapQuoteConsumer.assertIfDefined, hhex, Async.bind_of_ok htx, hcalls, happ, hcall,
    hsendTx, Except.mapError]

theorem all_approve_sample :
    (sampleConsumer (oneServer approval)).executeSwapQuoteOrThrowAsync
        (.marketSell pairOrders [] 10) ⟨some "0xt0", none, none⟩ =
      ⟨.ecSignTransaction pairTx.toZeroExTransaction "0xt0" ::
          .mapServerEndpointsToOrders (coordinatorOrders "0xc0" (pairOrders ++ [])) ::
          ((oneServerMap (coordinatorOrders "0xc0" (pairOrders ++ []))).keys.map
              (.executeServerRequest pairTx "0xt0") ++
            [.executeTransactionCall
              (CoordinatorSwapQuoteConsumer.executeTransactionArgs pairTx
                (allApprovals (oneServerMap (coordinatorOrders "0xc0" (pairOrders ++ []))) approval
                  pairTx)) "0xt0",
            .executeTransactionSend
              (CoordinatorSwapQuoteConsumer.executeTransactionArgs pairTx
                (allApprovals (oneServerMap (coordinatorOrders "0xc0" (pairOrders ++ []))) approval
                  pairTx)) "0xt0"]),
        .ok "0xh"⟩ :=
  @executeSwapQuoteOrThrowAsync_all_approve (sampleConsumer (oneServer approval))
    (.marketSell pairOrders [] 10) ⟨some "0xt0", none, none⟩ pairTx
    (oneServerMap (coordinatorOrders "0xc0" (pairOrders ++ []))) approval "0xh" rfl rfl rfl
    (fun _ _ => rfl) (fun _ _ => ⟨rfl, rfl⟩) rfl rfl

/-- When the transaction the run builds is signed and every server approves it with a body,
`getCalldataOrThrowAsync` asks the signer, the endpoint map and every endpoint in key order, and
returns the Coordinator's `executeTransaction` call with that transaction, its signer as
`txOrigin` and every approval, addressed to the Coordinator, with the exchange method's name as
its metadata and no ETH amount. -/
theorem getCalldataOrThrowAsync_all_approve {c : CoordinatorSwapQuoteConsumer}
    {quote : SwapQuote} {takerAddress? : Option Address} {stx : SignedZeroExTransaction}
    {M : EndpointMap} {respond : Endpoint → CoordinatorServerResponse}
    (htx : (c.getCoordinatorZeroExTransactionAsync quote takerAddress?).result = .ok stx)
    (hmap : c.coordinator.mapServerEndpointsToOrdersAsync
      (coordinatorOrders c.coordinator.address (quote.orders ++ quote.feeOrders)) = .ok M)
    (hsend : ∀ e ∈ M.keys,
      c.coordinator.executeServerRequestAsync stx stx.signerAddress e = .ok (respond e))
    (happrove : ∀ e ∈ M.keys, (respond e).isError = false ∧ (respond e).body.isSome) :
    c.getCalldataOrThrowAsync quote takerAddress? =
      ⟨.ecSignTransaction stx.toZeroExTransaction stx.signerAddress ::
          .mapServerEndpointsToOrders
            (coordinatorOrders c.coordinator.address (quote.orders ++ quote.feeOrders)) ::
          M.keys.map (.executeServerRequest stx stx.signerAddress),
        .ok { calldataHexString :=
                CoordinatorSwapQuoteConsumer.executeTransactionArgs stx (allApprovals M respond stx)
              methodAbi := if quote.type = .buy then "marketBuyOrders" else "marketSellOrders"
              toAddress := c.coordinator.address
              ethAmount := none }⟩ := by
  obtain ⟨hq, -, -, -, hcalls⟩ := c.getCoordinatorZeroExTransactionAsync_ok_inv htx
  have happ := getCoordinatorApprovalsAsync_all_approve hmap hsend happrove
  rw [CoordinatorSwapQuoteConsumer.getCalldataOrThrowAsync, Async.bind_of_ok htx, hcalls]
  cases quote <;>
    simp [CoordinatorSwapQuoteConsumer.getSmartContractParamsOrThrowAsync,
      CoordinatorSwapQuoteConsumer.assertIsValidSwapQuote, hq, happ, SwapQuote.type]

theorem calldata_all_approve_sample :
    (sampleConsumer (oneServer approval)).getCalldataOrThrowAsync (.marketSell pairOrders [] 10)
        (some "0xt0") =
      ⟨.ecSignTransaction pairTx.toZeroExTransaction "0xt0" ::
          .mapServerEndpointsToOrders (coordinatorOrders "0xc0" (pairOrders ++ [])) ::
          (oneServerMap (coordinatorOrders "0xc0" (pairOrders ++ []))).keys.map
            (.executeServerRequest pairTx "0xt0"),
        .ok { calldataHexString :=
                CoordinatorSwapQuoteConsumer.executeTransactionArgs pairTx
                  (allApprovals (oneServerMap (coordinatorOrders "0xc0" (pairOrders ++ [])))
                    approval pairTx)
              methodAbi := if (SwapQuote.marketSell pairOrders [] 10).type = .buy then
                "marketBuyOrders" else "marketSellOrders"
              toAddress := "0xc0"
              ethAmount := none }⟩ :=
  @getCalldataOrThrowAsync_all_approve (sampleConsumer (oneServer approval))
    (.marketSell pairOrders [] 10) (some "0xt0") pairTx
    (oneServerMap (coordinatorOrders "0xc0" (pairOrders ++ []))) approval rfl rfl
    (fun _ _ => rfl) (fun _ _ => ⟨rfl, rfl⟩)

/-! ## A refusal reaches the caller -/

/-- The `CoordinatorServerError` of a refusal reaches the caller of either public method as it
is, provided its message names neither a denied signature nor a failed complete fill and the gas
options pass their asserts, and `executeSwapQuoteOrThrowAsync` has then only asked the signer
and the coordinator. -/
theorem coordinatorServerError_reaches_caller {c : CoordinatorSwapQuoteConsumer}
    {quote : SwapQuote} {opts : SwapQuoteExecutionOpts} {stx : SignedZeroExTransaction}
    {err : CoordinatorServerError}
    (htx : (c.getCoordinatorZeroExTransactionAsync quote opts.takerAddress).result = .ok stx)
    (hgas : c.gasOptsPass opts = true)
    (happ : (getCoordinatorApprovalsAsync c.coordinator (quote.orders ++ quote.feeOrders)
      stx).result = .error (.coordinatorServerError err))
    (hdenied : includes (c.texts.coordinatorServerErrorMsg err.message)
      "SIGNATURE_REQUEST_DENIED" = false)
    (hfill : includes (c.texts.coordinatorServerErrorMsg err.message)
      c.texts.completeFillFailed = false) :
    (c.getCalldataOrThrowAsync quote opts.takerAddress).result = .error (.coordinatorServerError err) ∧
    (c.executeSwapQuoteOrThrowAsync quote opts).result = .error (.coordinatorServerError err) ∧
    ∀ call ∈ (c.executeSwapQuoteOrThrowAsync quote opts).calls,
      (∃ t a, call = .ecSignTransaction t a) ∨ call.IsCoordinatorQuery := by
  obtain ⟨hcalldata, hrun⟩ := c.approvals_error_propagates htx hgas happ
  have hrethrow : c.texts.rethrow (.coordinatorServerError err) = .coordinatorServerError err := by
    simp [ErrorTexts.rethrow, JsError.message, hdenied, hfill]
  refine ⟨hcalldata, by rw [hrun, hrethrow], fun call h => ?_⟩
  rw [hrun] at h
  rcases List.mem_append.mp h with h | h
  · exact .inl (c.allCalls_getCoordinatorZeroExTransactionAsync quote _ call h)
  · exact .inr (allCalls_getCoordinatorApprovalsAsync _ _ _ call h)

theorem fillFailed_reaches_caller_sample :
    let c := sampleConsumer (oneServer refusal)
    let quote : SwapQuote := .marketSell sampleOrders [] 10
    let opts : SwapQuoteExecutionOpts := ⟨some "0xt0", none, none⟩
    let err := fillFailedError (sampleOrders ++ []) "0xc0"
      (oneServerMap (coordinatorOrders "0xc0" (sampleOrders ++ []))) ⟨[refusal "https://a"], []⟩
    (c.getCalldataOrThrowAsync quote opts.takerAddress).result = .error (.coordinatorServerError err) ∧
    (c.executeSwapQuoteOrThrowAsync quote opts).result = .error (.coordinatorServerError err) ∧
    ∀ call ∈ (c.executeSwapQuoteOrThrowAsync quote opts).calls,
      (∃ t a, call = .ecSignTransaction t a) ∨ call.IsCoordinatorQuery :=
  @coordinatorServerError_reaches_caller (sampleConsumer (oneServer refusal))
    (.marketSell sampleOrders [] 10) ⟨some "0xt0", none, none⟩ sampleTx _ rfl rfl rfl
    (by decide) (by decide)

/-! ## One transaction per run -/

/-- `stx` is the taker's transaction, with the signature the provider's signer returns for it. -/
def CoordinatorSwapQuoteConsumer.SignedForTaker (c : CoordinatorSwapQuoteConsumer)
    (takerAddress? : Option Address) (stx : SignedZeroExTransaction) : Prop :=
  takerAddress? = some stx.signerAddress ∧
    c.ecSignTransactionAsync stx.toZeroExTransaction stx.signerAddress = .ok stx.signature

/-- The signed transaction a call hands to a coordinator server or to the Coordinator contract. -/
def Call.signedTransaction? : Call → Option SignedZeroExTransaction
  | .executeServerRequest signedZeroExTransaction _ _ => some signedZeroExTransaction
  | .executeTransactionCall args _ | .executeTransactionSend args _ => some args.transaction
  | _ => none

/-- A call of a run of either public method on `quote` that concerns the signed transaction
`stx`: the signer is asked about its unsigned part and its signer, the coordinator about the
quote's orders and `stx`, and the Coordinator contract is called with `stx`, its own signature
and its signer as `txOrigin`, from its signer. -/
def Call.Concerns (coordinator : CoordinatorWrapper) (quote : SwapQuote)
    (stx : SignedZeroExTransaction) : Call → Prop
  | .ecSignTransaction transaction signerAddress =>
    transaction = stx.toZeroExTransaction ∧ signerAddress = stx.signerAddress
  | .executeTransactionCall args fromAddress | .executeTransactionSend args fromAddress =>
    args.transaction = stx ∧ args.transactionSignature = stx.signature ∧
      args.txOrigin = stx.signerAddress ∧ fromAddress = stx.signerAddress
  | call => call.IsApprovalQuery coordinator (quote.orders ++ quote.feeOrders) stx

namespace CoordinatorSwapQuoteConsumer

variable (c : CoordinatorSwapQuoteConsumer)

theorem signedForTaker_of_getCoordinatorZeroExTransactionAsync {quote : SwapQuote}
    {takerAddress? : Option Address} {stx : SignedZeroExTransaction}
    (h : (c.getCoordinatorZeroExTransactionAsync quote takerAddress?).result = .ok stx) :
    c.SignedForTaker takerAddress? stx :=
  let ⟨_, ha, _, hs, _⟩ := c.getCoordinatorZeroExTransactionAsync_ok_inv h
  ⟨ha, hs⟩

/-- The calls building the signed transaction concern one transaction, the one returned. -/
theorem getCoordinatorZeroExTransactionAsync_concerns (quote : SwapQuote)
    (takerAddress? : Option Address) :
    ∃ stx, Async.AllCalls (Call.Concerns c.coordinator quote stx)
        (c.getCoordinatorZeroExTransactionAsync quote takerAddress?) ∧
      ∀ s, (c.getCoordinatorZeroExTransactionAsync quote takerAddress?).result = .ok s → s = stx := by
  rcases c.getCoordinatorZeroExTransactionAsync_cases quote takerAddress? with
    ⟨x, htx⟩ | ⟨t, -, -, -, htx⟩
  · exact ⟨⟨⟨0, "", .marketBuyOrdersNoThrow [] 0 [], ""⟩, ""⟩, by simp [htx], by simp [htx]⟩
  · refine ⟨{ t with signature := (c.ecSignTransactionAsync t t.signerAddress).toOption.getD "" },
      by simp [htx, Call.Concerns], fun s hs => ?_⟩
    rw [htx] at hs
    cases h : c.ecSignTransactionAsync t t.signerAddress <;> simp_all [Except.map, Except.toOption]

end CoordinatorSwapQuoteConsumer

/-- Every run of either public method is about one signed transaction: the signer signs it, the
coordinator's servers are asked to approve it, and the Coordinator contract receives it, with
its own signature and from its signer; `getCalldataOrThrowAsync` returns a call carrying it. -/
theorem run_concerns_one_transaction (c : CoordinatorSwapQuoteConsumer) (quote : SwapQuote)
    (opts : SwapQuoteExecutionOpts) :
    (∃ stx, Async.AllCalls (Call.Concerns c.coordinator quote stx)
      (c.executeSwapQuoteOrThrowAsync quote opts)) ∧
    ∃ stx, Async.AllCalls (Call.Concerns c.coordinator quote stx)
        (c.getCalldataOrThrowAsync quote opts.takerAddress) ∧
      ∀ info, (c.getCalldataOrThrowAsync quote opts.takerAddress).result = .ok info →
        info.calldataHexString.transaction = stx ∧
        info.calldataHexString.transactionSignature = stx.signature ∧
        info.calldataHexString.txOrigin = stx.signerAddress := by
  obtain ⟨stx, hcalls, hresult⟩ := c.getCoordinatorZeroExTransactionAsync_concerns quote opts.takerAddress
  have happrovals (s) (hs : (c.getCoordinatorZeroExTransactionAsync quote opts.takerAddress).result =
      .ok s) : Async.AllCalls (Call.Concerns c.coordinator quote stx)
      (getCoordinatorApprovalsAsync c.coordinator (quote.orders ++ quote.feeOrders) s) :=
    (allCalls_approvalQuery _ _ _).mono fun call h => by
      obtain rfl := hresult s hs
      cases call <;> simp_all [Call.Concerns, Call.IsApprovalQuery]
  refine ⟨⟨stx, c.allCalls_executeSwapQuoteOrThrowAsync_of hcalls happrovals fun s v hs _ => ?_⟩,
    stx, c.allCalls_getCalldataOrThrowAsync_of hcalls happrovals, fun info h => ?_⟩
  · obtain rfl := hresult s hs
    simp [Call.Concerns, CoordinatorSwapQuoteConsumer.executeTransactionArgs]
  · obtain ⟨s, v, hs, -, hinfo⟩ := c.getCalldataOrThrowAsync_ok h
    obtain rfl := hresult s hs
    simp [hinfo, CoordinatorSwapQuoteConsumer.executeTransactionArgs]

/-- Only a transaction the provider signed for the taker leaves the consumer: in any run of
either public method, every transaction handed to a coordinator server or to the Coordinator
contract, and the one `getCalldataOrThrowAsync` encodes, is the taker's with the signature the
signer returned for it. -/
theorem only_signed_transactions_leave (c : CoordinatorSwapQuoteConsumer) (quote : SwapQuote)
    (opts : SwapQuoteExecutionOpts) :
    Async.AllCalls (fun call => ∀ stx, call.signedTransaction? = some stx →
      c.SignedForTaker opts.takerAddress stx) (c.executeSwapQuoteOrThrowAsync quote opts) ∧
    Async.AllCalls (fun call => ∀ stx, call.signedTransaction? = some stx →
      c.SignedForTaker opts.takerAddress stx) (c.getCalldataOrThrowAsync quote opts.takerAddress) ∧
    ∀ info, (c.getCalldataOrThrowAsync quote opts.takerAddress).result = .ok info →
      c.SignedForTaker opts.takerAddress info.calldataHexString.transaction := by
  have htx := (c.allCalls_getCoordinatorZeroExTransactionAsync quote opts.takerAddress).mono
    fun call ⟨t, a, h⟩ => show ∀ stx, call.signedTransaction? = some stx →
      c.SignedForTaker opts.takerAddress stx by simp [h, Call.signedTransaction?]
  have happrovals (s) (hs : (c.getCoordinatorZeroExTransactionAsync quote opts.takerAddress).result =
      .ok s) : Async.AllCalls (fun call => ∀ stx, call.signedTransaction? = some stx →
        c.SignedForTaker opts.takerAddress stx)
        (getCoordinatorApprovalsAsync c.coordinator (quote.orders ++ quote.feeOrders) s) :=
    (allCalls_approvalQuery _ _ _).mono fun call h => by
      have := c.signedForTaker_of_getCoordinatorZeroExTransactionAsync hs
      cases call <;> simp_all [Call.signedTransaction?, Call.IsApprovalQuery]
  refine ⟨c.allCalls_executeSwapQuoteOrThrowAsync_of htx happrovals fun s v hs _ => ?_,
    c.allCalls_getCalldataOrThrowAsync_of htx happrovals, fun info h => ?_⟩
  · have := c.signedForTaker_of_getCoordinatorZeroExTransactionAsync hs
    simp [Call.signedTransaction?, CoordinatorSwapQuoteConsumer.executeTransactionArgs, this]
  · obtain ⟨s, v, hs, -, hinfo⟩ := c.getCalldataOrThrowAsync_ok h
    simpa [hinfo, CoordinatorSwapQuoteConsumer.executeTransactionArgs] using
      c.signedForTaker_of_getCoordinatorZeroExTransactionAsync hs

/-! ## No contract call without every approval -/

/-- The arguments a call hands to the Coordinator contract. -/
def Call.contractArgs? : Call → Option ExecuteTransactionArgs
  | .executeTransactionCall args _ | .executeTransactionSend args _ => some args
  | _ => none

/-- `args` carries the approval of every coordinator server for its transaction: the endpoint map
of the orders' coordinator orders was returned, every endpoint answered the transaction, asked
for its signer, without an error and with a body, and the two lists are the bodies' signatures in
key order, each with its body's expiration time. -/
def ExecuteTransactionArgs.FullyApproved (args : ExecuteTransactionArgs) (w : CoordinatorWrapper)
    (signedOrders : List SignedOrder) : Prop :=
  ∃ (M : EndpointMap) (respond : Endpoint → CoordinatorServerResponse),
    w.mapServerEndpointsToOrdersAsync (coordinatorOrders w.address signedOrders) = .ok M ∧
    (∀ e ∈ M.keys, w.executeServerRequestAsync args.transaction args.transaction.signerAddress e =
      .ok (respond e) ∧ (respond e).isError = false ∧ (respond e).body.isSome) ∧
    args.approvalSignatures = ((M.keys.map respond).filterMap (·.body)).flatMap (·.signatures) ∧
    args.approvalExpirationTimeSeconds = ((M.keys.map respond).filterMap (·.body)).flatMap
      fun r => List.replicate r.signatures.length r.expirationTimeSeconds

theorem executeTransactionArgs_fullyApproved {w : CoordinatorWrapper}
    {signedOrders : List SignedOrder} {stx : SignedZeroExTransaction} {v : CoordinatorApprovals}
    (hv : (getCoordinatorApprovalsAsync w signedOrders stx).result = .ok v) :
    (CoordinatorSwapQuoteConsumer.executeTransactionArgs stx v).FullyApproved w signedOrders := by
  obtain ⟨M, respond, hmap, hall, rfl⟩ := getCoordinatorApprovalsAsync_ok_inv hv
  exact ⟨M, respond, hmap, hall, rfl, rfl⟩

/-- The Coordinator contract is called, to simulate or to send, only with the approval of every
coordinator server of the quote's orders, and with exactly their signatures and expiration
times; a calldata `getCalldataOrThrowAsync` returns carries the same. -/
theorem contract_calls_fully_approved (c : CoordinatorSwapQuoteConsumer) (quote : SwapQuote)
    (opts : SwapQuoteExecutionOpts) :
    Async.AllCalls (fun call => ∀ args, call.contractArgs? = some args →
        args.FullyApproved c.coordinator (quote.orders ++ quote.feeOrders))
      (c.executeSwapQuoteOrThrowAsync quote opts) ∧
    ∀ info, (c.getCalldataOrThrowAsync quote opts.takerAddress).result = .ok info →
      info.calldataHexString.FullyApproved c.coordinator (quote.orders ++ quote.feeOrders) := by
  refine ⟨c.allCalls_executeSwapQuoteOrThrowAsync_of ?_ (fun s _ => ?_) fun s v _ hv => ?_,
    fun info h => ?_⟩
  · exact (c.allCalls_getCoordinatorZeroExTransactionAsync quote _).mono
      fun call ⟨t, a, h⟩ => by simp [h, Call.contractArgs?]
  · exact (allCalls_getCoordinatorApprovalsAsync _ _ _).mono
      fun call h => by cases call <;> simp_all [Call.contractArgs?, Call.IsCoordinatorQuery]
  · simpa [Call.contractArgs?] using executeTransactionArgs_fullyApproved hv
  · obtain ⟨s, v, -, hv, hinfo⟩ := c.getCalldataOrThrowAsync_ok h
    exact hinfo ▸ executeTransactionArgs_fullyApproved hv

/-! ## What the caller catches -/

/-- lodash `includes` on strings is the substring test. -/
theorem includes_iff_isInfix (text value : String) :
    includes text value = true ↔ value.data <:+: text.data := by
  suffices h : ∀ cs, includes.go value cs = true ↔ value.data <:+: cs from h text.data
  intro cs
  induction cs with
  | nil => simp [includes.go, List.isPrefixOf_iff_prefix]
  | cons c cs ih => simp [includes.go, List.infix_cons_iff, List.isPrefixOf_iff_prefix, ih]

/-- The `catch` throws one of the consumer's two errors, or an error whose message holds neither
`SIGNATURE_REQUEST_DENIED` nor the complete-fill revert reason. -/
theorem rethrow_cases (t : ErrorTexts) (err : JsError) :
    t.rethrow err = .error t.signatureRequestDenied ∨
    t.rethrow err = .error t.transactionValueTooLow ∨
    ¬ "SIGNATURE_REQUEST_DENIED".data <:+: ((t.rethrow err).message t).data ∧
      ¬ t.completeFillFailed.data <:+: ((t.rethrow err).message t).data := by
  unfold ErrorTexts.rethrow
  split
  · exact .inl rfl
  split
  · exact .inr (.inl rfl)
  · rename_i hdenied hfill
    exact .inr (.inr ⟨mt (includes_iff_isInfix _ _).mpr hdenied,
      mt (includes_iff_isInfix _ _).mpr hfill⟩)

/-- What `executeSwapQuoteOrThrowAsync` can do: fail the assert of `quote`, or of a defined
`takerAddress`, `gasLimit` or `gasPrice`, before any call; or run its `try` body with the body's
error mapped by the `catch`. -/
theorem CoordinatorSwapQuoteConsumer.executeSwapQuoteOrThrowAsync_cases
    (c : CoordinatorSwapQuoteConsumer) (quote : SwapQuote) (opts : SwapQuoteExecutionOpts) :
    (∃ variableName typeName, (variableName, typeName) ∈ [("quote", "SwapQuote"),
        ("takerAddress", "ETHAddressHex"), ("gasLimit", "number"), ("gasPrice", "BigNumber")] ∧
      c.executeSwapQuoteOrThrowAsync quote opts =
        ⟨[], .error (c.assertionFailed variableName typeName)⟩) ∨
    ∃ body : Async String,
      c.executeSwapQuoteOrThrowAsync quote opts = ⟨body.calls, body.result.mapError c.texts.rethrow⟩ := by
  unfold executeSwapQuoteOrThrowAsync
  rw [Async.tryCatch_throw]
  simp only [assertIsValidSwapQuote, assertTakerAddressIfDefined, assertGasLimitIfDefined,
    assertGasPriceIfDefined, assertIfDefined, Async.lift_def]
  split_ifs <;> simp only [Async.ok_bind, Async.error_bind, List.nil_append] <;>
    first
    | exact .inr ⟨_, rfl⟩
    | exact .inl ⟨_, _, by simp, rfl⟩

/-- The errors `executeSwapQuoteOrThrowAsync` throws, whatever the collaborators answer: a failed
assert of `quote`, `takerAddress`, `gasLimit` or `gasPrice`, thrown before any call;
`SignatureRequestDenied` or `TransactionValueTooLow`; or an error whose message holds neither
`SIGNATURE_REQUEST_DENIED` nor the complete-fill revert reason. -/
theorem executeSwapQuoteOrThrowAsync_throws (c : CoordinatorSwapQuoteConsumer) (quote : SwapQuote)
    (opts : SwapQuoteExecutionOpts) :
    ∀ e, (c.executeSwapQuoteOrThrowAsync quote opts).result = .error e →
      (c.executeSwapQuoteOrThrowAsync quote opts).calls = [] ∧
        (e = c.assertionFailed "quote" "SwapQuote" ∨
          e = c.assertionFailed "takerAddress" "ETHAddressHex" ∨
          e = c.assertionFailed "gasLimit" "number" ∨
          e = c.assertionFailed "gasPrice" "BigNumber") ∨
      e = .error c.texts.signatureRequestDenied ∨
      e = .error c.texts.transactionValueTooLow ∨
      ¬ "SIGNATURE_REQUEST_DENIED".data <:+: (e.message c.texts).data ∧
        ¬ c.texts.completeFillFailed.data <:+: (e.message c.texts).data := by
  intro e h
  rcases c.executeSwapQuoteOrThrowAsync_cases quote opts with ⟨n, t, hmem, hrun⟩ | ⟨body, hrun⟩ <;>
    rw [hrun] at h ⊢
  · cases h
    simp only [List.mem_cons, Prod.mk.injEq, List.mem_nil_iff, or_false] at hmem
    refine .inl ⟨rfl, ?_⟩
    rcases hmem with ⟨rfl, rfl⟩ | ⟨rfl, rfl⟩ | ⟨rfl, rfl⟩ | ⟨rfl, rfl⟩ <;> simp
  · cases hb : body.result with
    | ok _ => simp [hb, Except.mapError] at h
    | error x =>
      simp only [hb, Except.mapError, Except.error.injEq] at h
      exact h ▸ .inr (rethrow_cases c.texts x)

/-- The sample consumer with a signer that refuses, as a wallet does when its user denies the
request. -/
def deniedSigner : CoordinatorSwapQuoteConsumer :=
  { sampleConsumer (oneServer approval) with
    ecSignTransactionAsync := fun _ _ => .error (.error "User denied: SIGNATURE_REQUEST_DENIED") }

theorem denied_signature_throws_sample :
    let c := deniedSigner
    let quote : SwapQuote := .marketSell sampleOrders [] 10
    let opts : SwapQuoteExecutionOpts := ⟨some "0xt0", none, none⟩
    let e : JsError := .error "SIGNATURE_REQUEST_DENIED"
    (c.executeSwapQuoteOrThrowAsync quote opts).result = .error e ∧
      ((c.executeSwapQuoteOrThrowAsync quote opts).calls = [] ∧
          (e = c.assertionFailed "quote" "SwapQuote" ∨
            e = c.assertionFailed "takerAddress" "ETHAddressHex" ∨
            e = c.assertionFailed "gasLimit" "number" ∨
            e = c.assertionFailed "gasPrice" "BigNumber") ∨
        e = .error c.texts.signatureRequestDenied ∨
        e = .error c.texts.transactionValueTooLow ∨
        ¬ "SIGNATURE_REQUEST_DENIED".data <:+: (e.message c.texts).data ∧
          ¬ c.texts.completeFillFailed.data <:+: (e.message c.texts).data) :=
  ⟨rfl, executeSwapQuoteOrThrowAsync_throws deniedSigner (.marketSell sampleOrders [] 10)
    ⟨some "0xt0", none, none⟩ _ rfl⟩

end CoordinatorSwap

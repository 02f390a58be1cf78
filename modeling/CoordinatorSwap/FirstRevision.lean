import CoordinatorSwap.ConsumerLaws

/-!
# The first revision's signature for a contract taker

`coordinator_swap_quote_consumer.ts` holds two revisions of `CoordinatorSwapQuoteConsumer`; the
other modules model the second. The first takes the approvals from
`contractWrappers.coordinator.getCoordinatorApprovalsAsync`, a method declared outside the file,
and its `_getCoordinatorZeroExTransactionAsync` first asks the chain for the taker's contract
code. A taker without code (`'0x'` or `'0x00'`) has the transaction signed by the provider, as
in the second revision. Any other taker is a contract whose `isValidSignature` accepts
everything, and the transaction carries a signature of type `Wallet` without asking the signer.

`FirstRevisionConsumer` is the consumer with the collaborators the first revision adds: the
chain's code query, the wallet signature, and the wrapper's `getCoordinatorApprovalsAsync`,
given as the run it makes. Its `getSmartContractParamsOrThrowAsync` is the second revision's.

Compared with the second revision: on a taker without contract code the first revision's
transaction is the second's after one code query (`getCoordinatorZeroExTransactionAsync_no_code`),
and so both public methods agree with the second revision's up to that query when the wrapper's
`getCoordinatorApprovalsAsync` runs as the second revision's inlined
`_getCoordinatorApprovalsAsync` and the gas options pass their asserts
(`revisions_agree_without_code`). For a contract taker the first revision returns the
transaction the second has the provider sign, with the wallet signature
(`getCoordinatorZeroExTransactionAsync_contract`), so no run of either public method asks the
signer, and what reaches the Coordinator contract carries the wallet signature
(`contract_taker_runs_without_signer`).
-/

namespace CoordinatorSwap

/-- The fields the first revision reads from `getCoordinatorApprovalsAsync`'s result. -/
structure CoordinatorSignatures where
  coordinatorSignatures : List String
  coordinatorExpirationTimes : List Nat

structure FirstRevisionConsumer extends CoordinatorSwapQuoteConsumer where
  /-- How `web3Wrapper.getContractCodeAsync(takerAddress)` settles. -/
  getContractCodeAsync : Address → Except JsError String
  /-- `signatureUtils.convertToSignatureWithType('0x00', SignatureType.Wallet)`. -/
  walletSignature : String
  /-- How `this._contractWrappers.coordinator.getCoordinatorApprovalsAsync(signedOrders,
  signedZeroExTransaction)` runs: the calls it awaits and what it returns. Its code is outside
  this file. -/
  getCoordinatorApprovalsAsync : List SignedOrder → SignedZeroExTransaction →
    Async CoordinatorSignatures

namespace FirstRevisionConsumer

variable (c : FirstRevisionConsumer)

/-- `_getCoordinatorZeroExTransactionAsync` of the first revision. -/
def getCoordinatorZeroExTransactionAsync (quote : SwapQuote) (takerAddress? : Option Address) :
    Async SignedZeroExTransaction := do
  c.assertIsValidSwapQuote "quote" quote
  let takerAddress ← c.assertIsETHAddressHex "opts.takerAddress" takerAddress?
  let { params, .. } ← c.getSmartContractParamsOrThrowAsync quote
  let transaction : ZeroExTransaction :=
    { salt := c.salt, signerAddress := takerAddress,
      data := CoordinatorSwapQuoteConsumer.zeroExOperation params,
      verifyingContractAddress := c.exchangeAddress }
  let contractCode ← Async.call (.getContractCode takerAddress) (c.getContractCodeAsync takerAddress)
  if contractCode = "0x" ∨ contractCode = "0x00" then
    let signature ← Async.call (.ecSignTransaction transaction takerAddress)
      (c.ecSignTransactionAsync transaction takerAddress)
    pure { transaction with signature := signature }
  else
    pure { transaction with signature := c.walletSignature }

/-- `getCalldataOrThrowAsync` of the first revision. -/
def getCalldataOrThrowAsync (quote : SwapQuote) (takerAddress? : Option Address) :
    Async CalldataInfo := do
  let signedZeroExTransaction ← c.getCoordinatorZeroExTransactionAsync quote takerAddress?
  let { methodAbi, ethAmount, .. } ← c.getSmartContractParamsOrThrowAsync quote
  let { coordinatorSignatures, coordinatorExpirationTimes } ←
    c.getCoordinatorApprovalsAsync (quote.orders ++ quote.feeOrders) signedZeroExTransaction
  pure
    { calldataHexString :=
        ⟨signedZeroExTransaction, signedZeroExTransaction.signerAddress,
          signedZeroExTransaction.signature, coordinatorExpirationTimes, coordinatorSignatures⟩
      methodAbi := methodAbi
      toAddress := c.coordinator.address
      ethAmount := ethAmount }

/-- `executeSwapQuoteOrThrowAsync` of the first revision. -/
def executeSwapQuoteOrThrowAsync (quote : SwapQuote) (opts : SwapQuoteExecutionOpts) :
    Async String := do
  c.assertIsValidSwapQuote "quote" quote
  c.assertTakerAddressIfDefined opts.takerAddress
  c.assertGasLimitIfDefined opts.gasLimit
  c.assertGasPriceIfDefined opts.gasPrice
  Async.tryCatch
    (do
      let signedZeroExTransaction ← c.getCoordinatorZeroExTransactionAsync quote opts.takerAddress
      let { coordinatorSignatures, coordinatorExpirationTimes } ←
        c.getCoordinatorApprovalsAsync (quote.orders ++ quote.feeOrders) signedZeroExTransaction
      let args : ExecuteTransactionArgs :=
        ⟨signedZeroExTransaction, signedZeroExTransaction.signerAddress,
          signedZeroExTransaction.signature, coordinatorExpirationTimes, coordinatorSignatures⟩
      let txOrigin := signedZeroExTransaction.signerAddress
      Async.call (.executeTransactionCall args txOrigin) (c.executeTransactionCallAsync args txOrigin)
      Async.call (.executeTransactionSend args txOrigin) (c.executeTransactionSendAsync args txOrigin))
    fun err => throw (c.texts.rethrow err)

/-- The sample consumer of the second revision, with a taker whose contract code is `code`. -/
def sampleFirstRevision (code : String) : FirstRevisionConsumer :=
  ⟨sampleConsumer (oneServer approval), fun _ => .ok code, "0x0004", fun signedOrders stx =>
    (fun v : CoordinatorApprovals => ⟨v.coordinatorApprovalSignatures, v.coordinatorExpirationTimes⟩) <$>
      CoordinatorSwap.getCoordinatorApprovalsAsync (oneServer approval) signedOrders stx⟩

section Compare

variable {c} {quote : SwapQuote} {a : Address} {code : String}

/-- On a taker without contract code the first revision is the second after one code query. -/
theorem getCoordinatorZeroExTransactionAsync_no_code (hq : c.isValidSwapQuote quote = true)
    (hhex : c.isETHAddressHex a = true) (hcode : c.getContractCodeAsync a = .ok code)
    (heoa : code = "0x" ∨ code = "0x00") :
    c.getCoordinatorZeroExTransactionAsync quote (some a) = .cons (.getContractCode a)
      (c.toCoordinatorSwapQuoteConsumer.getCoordinatorZeroExTransactionAsync quote (some a)) := by
  obtain ⟨p, hp⟩ := c.getSmartContractParamsOrThrowAsync_ok hq
  simp [getCoordinatorZeroExTransactionAsync,
    CoordinatorSwapQuoteConsumer.getCoordinatorZeroExTransactionAsync,
    CoordinatorSwapQuoteConsumer.assertIsValidSwapQuote, hq,
    CoordinatorSwapQuoteConsumer.assertIsETHAddressHex, hhex, hp, hcode, heoa, Async.cons]

/-- On a contract taker the first revision asks no signer: it returns the transaction the second
revision has the provider sign, with the wallet signature. -/
theorem getCoordinatorZeroExTransactionAsync_contract (hq : c.isValidSwapQuote quote = true)
    (hhex : c.isETHAddressHex a = true) (hcode : c.getContractCodeAsync a = .ok code)
    (hcontract : code ≠ "0x" ∧ code ≠ "0x00") :
    ∃ transaction : ZeroExTransaction, transaction.signerAddress = a ∧
      (c.toCoordinatorSwapQuoteConsumer.getCoordinatorZeroExTransactionAsync quote (some a)).calls =
        [.ecSignTransaction transaction a] ∧
      c.getCoordinatorZeroExTransactionAsync quote (some a) =
        ⟨[.getContractCode a], .ok { transaction with signature := c.walletSignature }⟩ := by
  obtain ⟨p, hp⟩ := c.getSmartContractParamsOrThrowAsync_ok hq
  refine ⟨⟨c.salt, a, CoordinatorSwapQuoteConsumer.zeroExOperation p.params, c.exchangeAddress⟩,
    rfl, ?_, ?_⟩ <;>
    simp [getCoordinatorZeroExTransactionAsync,
      CoordinatorSwapQuoteConsumer.getCoordinatorZeroExTransactionAsync,
      CoordinatorSwapQuoteConsumer.assertIsValidSwapQuote, hq,
      CoordinatorSwapQuoteConsumer.assertIsETHAddressHex, hhex, hp, hcode, hcontract,
      Async.calls_bind_of_nil]

end Compare

/-- For a contract taker the transaction is built without the signer: every call is the code
query for the taker, and a returned transaction is the taker's with the wallet signature. -/
theorem getCoordinatorZeroExTransactionAsync_of_contract {a code : String}
    (hcode : c.getContractCodeAsync a = .ok code) (hcontract : code ≠ "0x" ∧ code ≠ "0x00")
    (quote : SwapQuote) :
    Async.AllCalls (· = .getContractCode a) (c.getCoordinatorZeroExTransactionAsync quote (some a)) ∧
      ∀ stx, (c.getCoordinatorZeroExTransactionAsync quote (some a)).result = .ok stx →
        stx.signerAddress = a ∧ stx.signature = c.walletSignature := by
  cases hq : c.isValidSwapQuote quote
  · simp [getCoordinatorZeroExTransactionAsync, CoordinatorSwapQuoteConsumer.assertIsValidSwapQuote,
      hq, Async.AllCalls]
  cases hhex : c.isETHAddressHex a
  · simp [getCoordinatorZeroExTransactionAsync, CoordinatorSwapQuoteConsumer.assertIsValidSwapQuote,
      hq, CoordinatorSwapQuoteConsumer.assertIsETHAddressHex, hhex, Async.AllCalls]
  obtain ⟨t, ht, -, h⟩ := getCoordinatorZeroExTransactionAsync_contract hq hhex hcode hcontract
  simp [h, ht, Async.AllCalls]

end FirstRevisionConsumer

/-! ## A contract taker -/

/-- A call of a first-revision run for the contract taker `a`: the code query for `a`, a query
of the coordinator, or a call of the Coordinator contract from `a` whose transaction carries the
wallet signature. The signer is never asked. -/
def Call.ForContractTaker (walletSignature : String) (a : Address) : Call → Prop
  | .getContractCode address => address = a
  | .executeTransactionCall args fromAddress | .executeTransactionSend args fromAddress =>
    fromAddress = a ∧ args.transaction.signature = walletSignature ∧
      args.transactionSignature = walletSignature
  | call => call.IsCoordinatorQuery

namespace FirstRevisionConsumer

/-- For a taker with contract code, and a wrapper whose approvals only query the coordinator,
no run of either public method of the first revision asks the signer: every call is the code
query, a coordinator query, or a call of the Coordinator contract from the taker with the
wallet signature, and `getCalldataOrThrowAsync` returns such a call. -/
theorem contract_taker_runs_without_signer {c : FirstRevisionConsumer} {a code : String}
    (hcode : c.getContractCodeAsync a = .ok code) (hcontract : code ≠ "0x" ∧ code ≠ "0x00")
    (happrovals : ∀ signedOrders stx,
      Async.AllCalls Call.IsCoordinatorQuery (c.getCoordinatorApprovalsAsync signedOrders stx))
    (quote : SwapQuote) (opts : SwapQuoteExecutionOpts) (ha : opts.takerAddress = some a) :
    Async.AllCalls (Call.ForContractTaker c.walletSignature a)
      (c.executeSwapQuoteOrThrowAsync quote opts) ∧
    Async.AllCalls (Call.ForContractTaker c.walletSignature a)
      (c.getCalldataOrThrowAsync quote (some a)) ∧
    ∀ info, (c.getCalldataOrThrowAsync quote (some a)).result = .ok info →
      info.calldataHexString.transactionSignature = c.walletSignature ∧
        info.calldataHexString.txOrigin = a := by
  obtain ⟨hcalls, hresult⟩ := c.getCoordinatorZeroExTransactionAsync_of_contract hcode hcontract quote
  have htx : Async.AllCalls (Call.ForContractTaker c.walletSignature a)
      (c.getCoordinatorZeroExTransactionAsync quote (some a)) :=
    hcalls.mono fun call h => by subst h; rfl
  have happ (signedOrders stx) : Async.AllCalls (Call.ForContractTaker c.walletSignature a)
      (c.getCoordinatorApprovalsAsync signedOrders stx) :=
    (happrovals signedOrders stx).mono fun call h => by
      cases call <;> simp_all [Call.ForContractTaker, Call.IsCoordinatorQuery]
  refine ⟨?_, Async.AllCalls.bind htx fun stx hs => ?_, fun info h => ?_⟩
  · rw [executeSwapQuoteOrThrowAsync, ha]
    refine .bind_nil rfl fun _ => .bind_nil rfl fun _ => .bind_nil rfl fun _ => .bind_nil rfl fun _ =>
      Async.AllCalls.tryCatch (Async.AllCalls.bind htx fun stx hs => ?_) fun _ => by simp
    obtain ⟨hsa, hsig⟩ := hresult stx hs
    refine Async.AllCalls.bind (happ _ _) fun ⟨_, _⟩ _ => Async.AllCalls.bind ?_ fun _ _ => ?_ <;>
      simp [Call.ForContractTaker, hsa, hsig]
  · exact Async.AllCalls.bind (by simp [Async.AllCalls]) fun _ _ =>
      Async.AllCalls.bind (happ _ _) fun ⟨_, _⟩ _ => by simp
  · obtain ⟨stx, hs, h⟩ := Async.result_ok_of_bind h
    obtain ⟨p, -, h⟩ := Async.result_ok_of_bind h
    obtain ⟨⟨_, _⟩, -, h⟩ := Async.result_ok_of_bind h
    cases h
    obtain ⟨hsa, hsig⟩ := hresult stx hs
    exact ⟨hsig, hsa⟩

theorem contract_taker_sample_runs :
    Async.AllCalls (Call.ForContractTaker "0x0004" "0xt0")
      ((sampleFirstRevision "0x6080").executeSwapQuoteOrThrowAsync (.marketSell pairOrders [] 10)
        ⟨some "0xt0", none, none⟩) ∧
    Async.AllCalls (Call.ForContractTaker "0x0004" "0xt0")
      ((sampleFirstRevision "0x6080").getCalldataOrThrowAsync (.marketSell pairOrders [] 10)
        (some "0xt0")) ∧
    ∀ info, ((sampleFirstRevision "0x6080").getCalldataOrThrowAsync (.marketSell pairOrders [] 10)
        (some "0xt0")).result = .ok info →
      info.calldataHexString.transactionSignature = "0x0004" ∧
        info.calldataHexString.txOrigin = "0xt0" :=
  @contract_taker_runs_without_signer (sampleFirstRevision "0x6080") "0xt0" "0x6080" rfl
    ⟨by decide, by decide⟩
    (fun _ _ call h => allCalls_getCoordinatorApprovalsAsync (oneServer approval) _ _ call
      (by simpa [sampleFirstRevision] using h))
    (.marketSell pairOrders [] 10) ⟨some "0xt0", none, none⟩ rfl

/-! ## The two revisions agree on a taker without code -/

/-- When the wrapper's `getCoordinatorApprovalsAsync` runs as the second revision's in-file
`_getCoordinatorApprovalsAsync`, both public methods of the first revision, on a valid quote, a
hex taker without contract code and gas options that pass their asserts, make the second
revision's calls after one code query and end the same way. -/
theorem revisions_agree_without_code {c : FirstRevisionConsumer} {quote : SwapQuote}
    {opts : SwapQuoteExecutionOpts} {a code : String}
    (hq : c.isValidSwapQuote quote = true) (ha : opts.takerAddress = some a)
    (hhex : c.isETHAddressHex a = true) (hgas : c.gasOptsPass opts = true)
    (hcode : c.getContractCodeAsync a = .ok code) (heoa : code = "0x" ∨ code = "0x00")
    (happrovals : ∀ signedOrders stx, c.getCoordinatorApprovalsAsync signedOrders stx =
      (fun v : CoordinatorApprovals => ⟨v.coordinatorApprovalSignatures, v.coordinatorExpirationTimes⟩) <$>
        CoordinatorSwap.getCoordinatorApprovalsAsync c.coordinator signedOrders stx) :
    c.executeSwapQuoteOrThrowAsync quote opts =
      ⟨.getContractCode a ::
          (c.toCoordinatorSwapQuoteConsumer.executeSwapQuoteOrThrowAsync quote opts).calls,
        (c.toCoordinatorSwapQuoteConsumer.executeSwapQuoteOrThrowAsync quote opts).result⟩ ∧
    c.getCalldataOrThrowAsync quote (some a) =
      ⟨.getContractCode a ::
          (c.toCoordinatorSwapQuoteConsumer.getCalldataOrThrowAsync quote (some a)).calls,
        (c.toCoordinatorSwapQuoteConsumer.getCalldataOrThrowAsync quote (some a)).result⟩ := by
  obtain ⟨hlimit, hprice⟩ := c.assertGas_of_gasOptsPass hgas
  have hquote : c.assertIsValidSwapQuote "quote" quote = pure () := by
    simp [CoordinatorSwapQuoteConsumer.assertIsValidSwapQuote, hq]
  have htaker : c.assertTakerAddressIfDefined (some a) = pure () :=
    c.assertIfDefined_of_all _ _ (by simpa using hhex)
  rw [executeSwapQuoteOrThrowAsync, CoordinatorSwapQuoteConsumer.executeSwapQuoteOrThrowAsync, ha,
    hquote, htaker, hlimit, hprice, getCalldataOrThrowAsync,
    CoordinatorSwapQuoteConsumer.getCalldataOrThrowAsync,
    getCoordinatorZeroExTransactionAsync_no_code hq hhex hcode heoa]
  simp only [Async.ok_bind, Async.pure_def, List.nil_append, Async.cons_bind, Async.tryCatch_cons,
    happrovals, Async.bind_map]
  exact ⟨rfl, rfl⟩

theorem revisions_agree_sample :
    (sampleFirstRevision "0x").executeSwapQuoteOrThrowAsync (.marketSell pairOrders [] 10)
        ⟨some "0xt0", none, none⟩ =
      ⟨.getContractCode "0xt0" ::
          ((sampleFirstRevision "0x").toCoordinatorSwapQuoteConsumer.executeSwapQuoteOrThrowAsync
            (.marketSell pairOrders [] 10) ⟨some "0xt0", none, none⟩).calls,
        ((sampleFirstRevision "0x").toCoordinatorSwapQuoteConsumer.executeSwapQuoteOrThrowAsync
            (.marketSell pairOrders [] 10) ⟨some "0xt0", none, none⟩).result⟩ ∧
    (sampleFirstRevision "0x").getCalldataOrThrowAsync (.marketSell pairOrders [] 10) (some "0xt0") =
      ⟨.getContractCode "0xt0" ::
          ((sampleFirstRevision "0x").toCoordinatorSwapQuoteConsumer.getCalldataOrThrowAsync
            (.marketSell pairOrders [] 10) (some "0xt0")).calls,
        ((sampleFirstRevision "0x").toCoordinatorSwapQuoteConsumer.getCalldataOrThrowAsync
            (.marketSell pairOrders [] 10) (some "0xt0")).result⟩ :=
  @revisions_agree_without_code (sampleFirstRevision "0x") (.marketSell pairOrders [] 10)
    ⟨some "0xt0", none, none⟩ "0xt0" "0x" rfl rfl rfl rfl rfl (.inl rfl) fun _ _ => rfl

end FirstRevisionConsumer

end CoordinatorSwap

import CoordinatorSwap.Approvals

/-!
# The consumer's public methods

`getCalldataOrThrowAsync` and `executeSwapQuoteOrThrowAsync` build the signed 0x transaction
(`_getCoordinatorZeroExTransactionAsync`), collect the coordinator approvals
(`_getCoordinatorApprovalsAsync`) and hand both to the Coordinator contract's
`executeTransaction`: the first returns the encoded call, the second simulates it with
`callAsync` and sends it. Before its `try`, `executeSwapQuoteOrThrowAsync` asserts the quote
and each defined option (`takerAddress`, `gasLimit`, `gasPrice`); its `catch` maps a thrown error
whose message names a denied signature or a failed complete fill to its own error, and rethrows
any other.

`CoordinatorSwapQuoteConsumer` is the instance with what it reaches through `this`: the
coordinator and exchange wrappers, the provider's signer and the chain, and the assert helpers
of `../utils/assert` and `@0x/assert`, each by the way it settles. `ErrorTexts` holds the texts
declared outside this file that the `catch` compares and throws.
-/

namespace CoordinatorSwap

/-- `Partial<SwapQuoteExecutionOptsBase>`; `none` is `undefined`. `gasLimit` is a `number`,
`gasPrice` a `BigNumber`. -/
structure SwapQuoteExecutionOpts where
  takerAddress : Option Address
  gasLimit : Option JsNumber
  gasPrice : Option Nat

/-- `SmartContractParamsInfo<ExchangeSmartContractParams>`. `methodAbi` is the exchange ABI's
entry for a method, named by the method. -/
structure SmartContractParamsInfo where
  params : ExchangeSmartContractParams
  toAddress : Address
  methodAbi : String
  ethAmount : Option Nat

/-- `CalldataInfo`; `calldataHexString` is the encoded `executeTransaction` call. -/
structure CalldataInfo where
  calldataHexString : ExecuteTransactionArgs
  methodAbi : String
  toAddress : Address
  ethAmount : Option Nat

structure ErrorTexts where
  /-- `RevertReason.CompleteFillFailed`. -/
  completeFillFailed : String
  /-- `SwapQuoteConsumerError.SignatureRequestDenied`. -/
  signatureRequestDenied : String
  /-- `SwapQuoteConsumerError.TransactionValueTooLow`. -/
  transactionValueTooLow : String
  /-- The text of a `CoordinatorServerErrorMsg`. -/
  coordinatorServerErrorMsg : CoordinatorServerErrorMsg → String
  /-- The runtime's message for reading a property of `undefined`. -/
  typeErrorMessage : String → String

/-- `err.message`. -/
def JsError.message (t : ErrorTexts) : JsError → String
  | .error message => message
  | .typeError property => t.typeErrorMessage property
  | .coordinatorServerError e => t.coordinatorServerErrorMsg e.message

/-- lodash `includes(text, value)` on strings: `value` occurs in `text`. -/
def includes (text value : String) : Bool := go text.data
where
  go : List Char → Bool
    | [] => value.data.isPrefixOf []
    | c :: cs => value.data.isPrefixOf (c :: cs) || go cs

/-- The `catch` of `executeSwapQuoteOrThrowAsync`: the error it throws for `err`. -/
def ErrorTexts.rethrow (t : ErrorTexts) (err : JsError) : JsError :=
  if includes (err.message t) "SIGNATURE_REQUEST_DENIED" then .error t.signatureRequestDenied
  else if includes (err.message t) t.completeFillFailed then .error t.transactionValueTooLow
  else err

structure CoordinatorSwapQuoteConsumer where
  coordinator : CoordinatorWrapper
  exchangeAddress : Address
  /-- The value `generatePseudoRandomSalt()` draws in this run. -/
  salt : Nat
  /-- How the provider settles `signatureUtils.ecSignTransactionAsync(provider, transaction,
  takerAddress)`: the signature it returns with the transaction. -/
  ecSignTransactionAsync : ZeroExTransaction → Address → Except JsError String
  /-- How `coordinator.executeTransaction.callAsync(..., { from })` settles. -/
  executeTransactionCallAsync : ExecuteTransactionArgs → Address → Except JsError Unit
  /-- How `coordinator.executeTransaction.sendTransactionAsync(..., { from })` settles: the
  transaction hash. -/
  executeTransactionSendAsync : ExecuteTransactionArgs → Address → Except JsError String
  optimizeOrdersForMarketExchangeOperation : List SignedOrder → MarketOperation → List SignedOrder
  -- The tests of `assert.isValidSwapQuote`, `isETHAddressHex` (on a string), `isNumber` and
  -- `isBigNumber`, and what a failed assert on a variable name and a type name throws.
  isValidSwapQuote : SwapQuote → Bool
  isETHAddressHex : Address → Bool
  isNumber : JsNumber → Bool
  isBigNumber : Nat → Bool
  assertionFailed : String → String → JsError
  texts : ErrorTexts

namespace CoordinatorSwapQuoteConsumer

variable (c : CoordinatorSwapQuoteConsumer)

/-- `assert.isValidSwapQuote(variableName, quote)`. -/
def assertIsValidSwapQuote (variableName : String) (quote : SwapQuote) : Async Unit :=
  .lift (if c.isValidSwapQuote quote then .ok () else .error (c.assertionFailed variableName "SwapQuote"))

/-- `assert.isETHAddressHex(variableName, value)`, which first asserts `isString` and so fails
on `undefined` as a `string` assert; the value is then used as the address it was checked to be. -/
def assertIsETHAddressHex (variableName : String) : Option Address → Async Address
  | some value =>
    .lift (if c.isETHAddressHex value then .ok value
      else .error (c.assertionFailed variableName "ETHAddressHex"))
  | none => .lift (.error (c.assertionFailed variableName "string"))

def getSmartContractParamsOrThrowAsync (quote : SwapQuote) : Async SmartContractParamsInfo := do
  c.assertIsValidSwapQuote "quote" quote
  let signatures := quote.orders.map (·.signature)
  let optimizedOrders := c.optimizeOrdersForMarketExchangeOperation quote.orders quote.type
  let (params, methodName) : ExchangeSmartContractParams × String := match quote with
    | .marketBuy _ _ makerAssetFillAmount =>
      (.marketBuy optimizedOrders signatures makerAssetFillAmount, "marketBuyOrders")
    | .marketSell _ _ takerAssetFillAmount =>
      (.marketSell optimizedOrders signatures takerAssetFillAmount, "marketSellOrders")
  pure { params := params, toAddress := c.exchangeAddress, methodAbi := methodName, ethAmount := none }

/-- `zeroExOperation` of `_getCoordinatorZeroExTransactionAsync`: the exchange call the
transaction carries. -/
def zeroExOperation : ExchangeSmartContractParams → ExchangeCallData
  | .marketBuy orders signatures makerAssetFillAmount =>
    .marketBuyOrdersNoThrow orders makerAssetFillAmount signatures
  | .marketSell orders signatures takerAssetFillAmount =>
    .marketSellOrdersNoThrow orders takerAssetFillAmount signatures

/-- `_getCoordinatorZeroExTransactionAsync`. -/
def getCoordinatorZeroExTransactionAsync (quote : SwapQuote) (takerAddress? : Option Address) :
    Async SignedZeroExTransaction := do
  c.assertIsValidSwapQuote "quote" quote
  let takerAddress ← c.assertIsETHAddressHex "opts.takerAddress" takerAddress?
  let { params, .. } ← c.getSmartContractParamsOrThrowAsync quote
  let transaction : ZeroExTransaction :=
    { salt := c.salt, signerAddress := takerAddress, data := zeroExOperation params,
      verifyingContractAddress := c.exchangeAddress }
  let signature ← Async.call (.ecSignTransaction transaction takerAddress)
    (c.ecSignTransactionAsync transaction takerAddress)
  pure { transaction with signature := signature }

/-- The arguments both public methods pass to `executeTransaction`. -/
def executeTransactionArgs (signedZeroExTransaction : SignedZeroExTransaction)
    (approvals : CoordinatorApprovals) : ExecuteTransactionArgs :=
  ⟨signedZeroExTransaction, signedZeroExTransaction.signerAddress,
    signedZeroExTransaction.signature, approvals.coordinatorExpirationTimes,
    approvals.coordinatorApprovalSignatures⟩

def getCalldataOrThrowAsync (quote : SwapQuote) (takerAddress? : Option Address) :
    Async CalldataInfo := do
  let signedZeroExTransaction ← c.getCoordinatorZeroExTransactionAsync quote takerAddress?
  let { methodAbi, ethAmount, .. } ← c.getSmartContractParamsOrThrowAsync quote
  let approvals ← getCoordinatorApprovalsAsync c.coordinator (quote.orders ++ quote.feeOrders)
    signedZeroExTransaction
  pure
    { calldataHexString := executeTransactionArgs signedZeroExTransaction approvals
      methodAbi := methodAbi
      toAddress := c.coordinator.address
      ethAmount := ethAmount }

/-- `if (value !== undefined) assert.<test>(variableName, value)`, the assert failing with
`typeName`. -/
def assertIfDefined {α : Type} (test : α → Bool) (variableName typeName : String)
    (value? : Option α) : Async Unit :=
  .lift (if value?.all test then .ok () else .error (c.assertionFailed variableName typeName))

def assertTakerAddressIfDefined : Option Address → Async Unit :=
  c.assertIfDefined c.isETHAddressHex "takerAddress" "ETHAddressHex"

def assertGasLimitIfDefined : Option JsNumber → Async Unit :=
  c.assertIfDefined c.isNumber "gasLimit" "number"

def assertGasPriceIfDefined : Option Nat → Async Unit :=
  c.assertIfDefined c.isBigNumber "gasPrice" "BigNumber"

/-- `gasLimit` and `gasPrice` pass their asserts where defined; neither is read again. -/
def gasOptsPass (opts : SwapQuoteExecutionOpts) : Bool :=
  opts.gasLimit.all c.isNumber && opts.gasPrice.all c.isBigNumber

def executeSwapQuoteOrThrowAsync (quote : SwapQuote) (opts : SwapQuoteExecutionOpts) :
    Async String := do
  c.assertIsValidSwapQuote "quote" quote
  c.assertTakerAddressIfDefined opts.takerAddress
  c.assertGasLimitIfDefined opts.gasLimit
  c.assertGasPriceIfDefined opts.gasPrice
  Async.tryCatch
    (do
      let signedZeroExTransaction ← c.getCoordinatorZeroExTransactionAsync quote opts.takerAddress
      let approvals ← getCoordinatorApprovalsAsync c.coordinator (quote.orders ++ quote.feeOrders)
        signedZeroExTransaction
      let args := executeTransactionArgs signedZeroExTransaction approvals
      let txOrigin := signedZeroExTransaction.signerAddress
      Async.call (.executeTransactionCall args txOrigin) (c.executeTransactionCallAsync args txOrigin)
      Async.call (.executeTransactionSend args txOrigin) (c.executeTransactionSendAsync args txOrigin))
    fun err => throw (c.texts.rethrow err)

end CoordinatorSwapQuoteConsumer

end CoordinatorSwap

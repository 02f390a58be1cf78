import Mathlib.Data.List.Perm.Basic
import Mathlib.Data.Rat.Init

/-!
# The data the coordinator consumer handles

`CoordinatorSwapQuoteConsumer` (`coordinator_swap_quote_consumer.ts`) turns a swap quote into
one 0x transaction that the Coordinator contract executes, and asks every coordinator server
whose orders the quote uses to approve it. The records here keep the fields that file reads or
builds; a type of the 0x libraries keeps only the fields that reach this file.

Addresses and endpoints are strings compared by `===`, as the file compares them. Amounts and
timestamps are `BigNumber`s, here `Nat`; a JavaScript `number` is `JsNumber`, which keeps the
infinities and `NaN` an assert can be handed. An ABI-encoded call is injective in its arguments,
so `ExchangeCallData` and `ExecuteTransactionArgs` stand for the encodings by the calls they
encode.

`serverEndpointsToOrders` is a JS object: its keys are distinct, and `Object.keys` lists them in
insertion order (endpoints are URLs, never integer-like). `EndpointMap` is that object as the
list of its entries in `Object.keys` order, with the distinctness of the keys as a field.
-/

namespace CoordinatorSwap

abbrev Address := String

abbrev Endpoint := String

inductive JsNumber where
  | finite (value : ℚ)
  | infinity (negative : Bool)
  | nan
  deriving DecidableEq, Repr

/-- The fields of a `SignedOrder` that the consumer reads. -/
structure SignedOrder where
  senderAddress : Address
  signature : String
  deriving DecidableEq, Repr

inductive MarketOperation where
  | buy
  | sell
  deriving DecidableEq, Repr

/-- `MarketBuySwapQuote | MarketSellSwapQuote`. -/
inductive SwapQuote where
  | marketBuy (orders feeOrders : List SignedOrder) (makerAssetFillAmount : Nat)
  | marketSell (orders feeOrders : List SignedOrder) (takerAssetFillAmount : Nat)
  deriving DecidableEq, Repr

namespace SwapQuote

def orders : SwapQuote → List SignedOrder
  | marketBuy os _ _ | marketSell os _ _ => os

def feeOrders : SwapQuote → List SignedOrder
  | marketBuy _ fs _ | marketSell _ fs _ => fs

def type : SwapQuote → MarketOperation
  | marketBuy .. => .buy
  | marketSell .. => .sell

end SwapQuote

/-- `ExchangeSmartContractParams`, by `type`. -/
inductive ExchangeSmartContractParams where
  | marketBuy (orders : List SignedOrder) (signatures : List String) (makerAssetFillAmount : Nat)
  | marketSell (orders : List SignedOrder) (signatures : List String) (takerAssetFillAmount : Nat)
  deriving DecidableEq, Repr

/-- The exchange calls a 0x transaction can carry, as their encoding's arguments. -/
inductive ExchangeCallData where
  | marketBuyOrdersNoThrow (orders : List SignedOrder) (makerAssetFillAmount : Nat)
      (signatures : List String)
  | marketSellOrdersNoThrow (orders : List SignedOrder) (takerAssetFillAmount : Nat)
      (signatures : List String)
  deriving DecidableEq, Repr

structure ZeroExTransaction where
  salt : Nat
  signerAddress : Address
  data : ExchangeCallData
  verifyingContractAddress : Address
  deriving DecidableEq, Repr

structure SignedZeroExTransaction extends ZeroExTransaction where
  signature : String
  deriving DecidableEq, Repr

/-- The arguments of the Coordinator contract's `executeTransaction`. -/
structure ExecuteTransactionArgs where
  transaction : SignedZeroExTransaction
  txOrigin : Address
  transactionSignature : String
  approvalExpirationTimeSeconds : List Nat
  approvalSignatures : List String
  deriving DecidableEq, Repr

/-! ## Coordinator server responses -/

structure CoordinatorServerApprovalRawResponse where
  signatures : List String
  expirationTimeSeconds : Nat
  deriving DecidableEq, Repr

structure CoordinatorServerApprovalResponse where
  signatures : List String
  expirationTimeSeconds : List Nat
  deriving DecidableEq, Repr

/-- `CoordinatorServerResponse`. `body` and `orders` are optional (`none` is `undefined`);
`error` is the server's error payload. -/
structure CoordinatorServerResponse where
  isError : Bool
  status : Nat
  body : Option CoordinatorServerApprovalRawResponse
  error : Option String
  coordinatorOperator : Endpoint
  orders : Option (List SignedOrder)
  deriving DecidableEq, Repr

structure CoordinatorServerCancellationResponse where
  cancellationSignatures : List String
  deriving DecidableEq, Repr

inductive CoordinatorServerErrorMsg where
  | cancellationFailed
  | fillFailed
  deriving DecidableEq, Repr

/-- `CoordinatorServerError`. `approvedOrders` is a JS array whose entries may be `undefined`. -/
structure CoordinatorServerError where
  message : CoordinatorServerErrorMsg
  approvedOrders : List (Option SignedOrder)
  cancellations : List CoordinatorServerCancellationResponse
  errors : List CoordinatorServerResponse
  deriving DecidableEq, Repr

/-- What an `async` method of the consumer can throw. -/
inductive JsError where
  /-- `new Error(message)`, or a rejection of a collaborator with this message. -/
  | error (message : String)
  /-- Reading the property `property` of `undefined`. -/
  | typeError (property : String)
  | coordinatorServerError (e : CoordinatorServerError)
  deriving DecidableEq, Repr

/-! ## The endpoint map -/

/-- `serverEndpointsToOrders`: entries in `Object.keys` order, keys distinct. -/
structure EndpointMap where
  entries : List (Endpoint × List SignedOrder)
  nodup : (entries.map Prod.fst).Nodup

namespace EndpointMap

/-- `Object.keys(serverEndpointsToOrders)`. -/
def keys (M : EndpointMap) : List Endpoint := M.entries.map Prod.fst

/-- `serverEndpointsToOrders[endpoint]`; `none` is `undefined`. -/
def get? (M : EndpointMap) (endpoint : Endpoint) : Option (List SignedOrder) :=
  M.entries.lookup endpoint

def groupOf (M : EndpointMap) (endpoint : Endpoint) : List SignedOrder :=
  (M.get? endpoint).getD []

theorem keys_nodup (M : EndpointMap) : M.keys.Nodup := M.nodup

theorem get?_of_mem {M : EndpointMap} {e : Endpoint} {os : List SignedOrder}
    (h : (e, os) ∈ M.entries) : M.get? e = some os := by
  obtain ⟨entries, nodup⟩ := M
  simp only [get?]
  induction entries with
  | nil => cases h
  | cons p entries ih =>
    obtain ⟨k, v⟩ := p
    simp only [List.map_cons, List.nodup_cons, List.mem_map] at nodup
    rcases List.mem_cons.mp h with h | h
    · cases h
      exact List.lookup_cons_self
    · have hk : e ≠ k := fun hk => nodup.1 ⟨(e, os), h, hk⟩
      rw [List.lookup_cons, beq_false_of_ne hk]
      exact ih nodup.2 h

theorem get?_isSome {M : EndpointMap} {e : Endpoint} (h : e ∈ M.keys) :
    M.get? e = some (M.groupOf e) := by
  obtain ⟨⟨k, os⟩, hm, rfl⟩ := List.mem_map.mp h
  simp [groupOf, get?_of_mem hm]

theorem groupOf_of_mem {M : EndpointMap} {p : Endpoint × List SignedOrder}
    (hp : p ∈ M.entries) : M.groupOf p.1 = p.2 := by
  simp [groupOf, get?_of_mem hp]

theorem flatMap_groupOf (M : EndpointMap) :
    M.keys.flatMap M.groupOf = M.entries.flatMap Prod.snd := by
  simp only [keys, List.flatMap_map]
  exact List.flatMap_congr fun _ => groupOf_of_mem

theorem filter_entries (M : EndpointMap) (p : Endpoint → Bool) :
    M.entries.filter (fun g => p g.1) = (M.keys.filter p).map fun e => (e, M.groupOf e) := by
  rw [keys, List.filter_map, List.map_map]
  conv_lhs => rw [← List.map_id (M.entries.filter _)]
  exact List.map_congr_left fun g hg => by
    simp [groupOf_of_mem (List.mem_of_mem_filter hg)]

end EndpointMap

end CoordinatorSwap

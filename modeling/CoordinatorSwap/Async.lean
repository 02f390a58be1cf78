import CoordinatorSwap.Types

/-!
# Runs of the consumer's `async` methods

The consumer's methods `await` one collaborator after another and either return or throw. A
run is kept as data: `Async α` holds the calls the method awaited, in order, with their
arguments, and the method's outcome. How a collaborator's promise settles is an argument of the
model (`CoordinatorWrapper` and `CoordinatorSwapQuoteConsumer`), so a theorem about a run holds
for every way the servers, the signer and the chain can answer.

`bind` is `await`: a thrown error skips the rest and keeps the calls made so far. `tryCatch` is
`try ... catch`, and a loop over a list is `List.foldlM`.
-/

namespace CoordinatorSwap

/-- A call to a collaborator of the consumer, with the arguments it is awaited with. -/
inductive Call where
  | mapServerEndpointsToOrders (coordinatorOrders : List SignedOrder)
  | executeServerRequest (signedTransaction : SignedZeroExTransaction) (txOrigin : Address)
      (endpoint : Endpoint)
  | getContractCode (address : Address)
  | ecSignTransaction (transaction : ZeroExTransaction) (signerAddress : Address)
  | executeTransactionCall (args : ExecuteTransactionArgs) (fromAddress : Address)
  | executeTransactionSend (args : ExecuteTransactionArgs) (fromAddress : Address)
  deriving DecidableEq, Repr

/-- A finished run: the calls awaited, in order, and whether the method returned or threw. -/
structure Async (α : Type) where
  calls : List Call
  result : Except JsError α

namespace Async

variable {α β : Type}

/-- Await one call whose promise settles to `r`. -/
def call (c : Call) (r : Except JsError α) : Async α := ⟨[c], r⟩

/-- A synchronous step that may throw. -/
def lift (r : Except JsError α) : Async α := ⟨[], r⟩

def bind (x : Async α) (f : α → Async β) : Async β :=
  match x.result with
  | .ok a => ⟨x.calls ++ (f a).calls, (f a).result⟩
  | .error e => ⟨x.calls, .error e⟩

/-- `try { x } catch (err) { handler(err) }`. -/
def tryCatch (x : Async α) (handler : JsError → Async α) : Async α :=
  match x.result with
  | .ok _ => x
  | .error e => ⟨x.calls ++ (handler e).calls, (handler e).result⟩

instance : Monad Async where
  pure a := ⟨[], .ok a⟩
  bind := bind

instance : MonadExceptOf JsError Async where
  throw e := ⟨[], .error e⟩
  tryCatch := tryCatch

@[simp] theorem pure_def (a : α) : (pure a : Async α) = ⟨[], .ok a⟩ := rfl

@[simp] theorem throw_def (e : JsError) : (throw e : Async α) = ⟨[], .error e⟩ := rfl

@[simp] theorem call_def (c : Call) (r : Except JsError α) : call c r = ⟨[c], r⟩ := rfl

@[simp] theorem lift_def (r : Except JsError α) : lift r = ⟨[], r⟩ := rfl

@[simp] theorem ok_bind (cs : List Call) (a : α) (f : α → Async β) :
    (⟨cs, .ok a⟩ : Async α) >>= f = ⟨cs ++ (f a).calls, (f a).result⟩ := rfl

@[simp] theorem error_bind (cs : List Call) (e : JsError) (f : α → Async β) :
    (⟨cs, .error e⟩ : Async α) >>= f = ⟨cs, .error e⟩ := rfl

@[simp] theorem ok_tryCatch (cs : List Call) (a : α) (h : JsError → Async α) :
    tryCatch ⟨cs, .ok a⟩ h = ⟨cs, .ok a⟩ := rfl

@[simp] theorem error_tryCatch (cs : List Call) (e : JsError) (h : JsError → Async α) :
    tryCatch ⟨cs, .error e⟩ h = ⟨cs ++ (h e).calls, (h e).result⟩ := rfl

/-- The run `x` with the call `c` made before it. -/
def cons (c : Call) (x : Async α) : Async α := ⟨c :: x.calls, x.result⟩

@[simp] theorem cons_bind (c : Call) (x : Async α) (f : α → Async β) :
    cons c x >>= f = cons c (x >>= f) := by
  obtain ⟨cs, _ | a⟩ := x <;> rfl

@[simp] theorem tryCatch_cons (c : Call) (x : Async α) (h : JsError → Async α) :
    tryCatch (cons c x) h = cons c (tryCatch x h) := by
  obtain ⟨cs, _ | a⟩ := x <;> rfl

/-! ## Inversion -/

theorem result_ok_of_bind {x : Async α} {f : α → Async β} {b : β}
    (h : (x >>= f).result = .ok b) : ∃ a, x.result = .ok a ∧ (f a).result = .ok b := by
  obtain ⟨cs, _ | a⟩ := x
  · cases h
  · exact ⟨a, rfl, h⟩

theorem mem_calls_bind {x : Async α} {f : α → Async β} {c : Call} (h : c ∈ (x >>= f).calls) :
    c ∈ x.calls ∨ ∃ a, x.result = .ok a ∧ c ∈ (f a).calls := by
  obtain ⟨cs, _ | a⟩ := x
  · exact .inl h
  · simpa using h

/-- A call of a run whose first step awaits nothing was made after that step returned. -/
theorem mem_calls_bind_nil {x : Async α} {f : α → Async β} {c : Call} (hx : x.calls = [])
    (h : c ∈ (x >>= f).calls) : ∃ a, x.result = .ok a ∧ c ∈ (f a).calls :=
  (mem_calls_bind h).resolve_left (by simp [hx])

theorem bind_of_ok {x : Async α} {f : α → Async β} {a : α} (h : x.result = .ok a) :
    x >>= f = ⟨x.calls ++ (f a).calls, (f a).result⟩ := by
  obtain ⟨cs, r⟩ := x
  cases h
  rfl

theorem bind_of_nil_ok {x : Async α} {f : α → Async β} {a : α} (hx : x.calls = [])
    (h : x.result = .ok a) : x >>= f = f a := by
  rw [bind_of_ok h, hx]
  rfl

theorem bind_of_error {x : Async α} {f : α → Async β} {e : JsError} (h : x.result = .error e) :
    x >>= f = ⟨x.calls, .error e⟩ := by
  obtain ⟨cs, r⟩ := x
  cases h
  rfl

theorem bind_map {γ : Type} (f : α → β) (x : Async α) (g : β → Async γ) :
    (f <$> x) >>= g = x >>= fun a => g (f a) := by
  obtain ⟨cs, _ | a⟩ := x
  · rfl
  · show (⟨cs ++ [], .ok (f a)⟩ : Async β) >>= g = _
    simp

@[simp] theorem calls_map (f : α → β) (x : Async α) : (f <$> x).calls = x.calls := by
  obtain ⟨cs, _ | a⟩ := x
  · rfl
  · exact List.append_nil cs

/-- A `catch` that only rethrows keeps the calls and maps the error. -/
theorem tryCatch_throw (x : Async α) (g : JsError → JsError) :
    tryCatch x (fun err => throw (g err)) = ⟨x.calls, x.result.mapError g⟩ := by
  obtain ⟨cs, _ | a⟩ := x <;> simp [Except.mapError]

/-- A continuation that awaits nothing adds no call. -/
theorem calls_bind_of_nil {x : Async α} {f : α → Async β} (h : ∀ a, (f a).calls = []) :
    (x >>= f).calls = x.calls := by
  obtain ⟨cs, _ | a⟩ := x
  · rfl
  · simp [h]

/-- Every call of the run satisfies `P`. -/
def AllCalls (P : Call → Prop) (x : Async α) : Prop := ∀ c ∈ x.calls, P c

theorem AllCalls.mono {P Q : Call → Prop} {x : Async α} (hPQ : ∀ c, P c → Q c)
    (h : AllCalls P x) : AllCalls Q x := fun c hc => hPQ c (h c hc)

theorem AllCalls.bind {P : Call → Prop} {x : Async α} {f : α → Async β} (hx : AllCalls P x)
    (hf : ∀ a, x.result = .ok a → AllCalls P (f a)) : AllCalls P (x >>= f) := fun c hc =>
  (mem_calls_bind hc).elim (hx c) fun ⟨a, ha, hc⟩ => hf a ha c hc

theorem AllCalls.bind_nil {P : Call → Prop} {x : Async α} {f : α → Async β} (hx : x.calls = [])
    (hf : ∀ a, AllCalls P (f a)) : AllCalls P (x >>= f) :=
  AllCalls.bind (fun c hc => by simp [hx] at hc) fun a _ => hf a

theorem AllCalls.tryCatch {P : Call → Prop} {x : Async α} {h : JsError → Async α}
    (hx : AllCalls P x) (hh : ∀ e, AllCalls P (h e)) : AllCalls P (Async.tryCatch x h) := by
  obtain ⟨cs, _ | a⟩ := x
  · intro c hc
    rcases List.mem_append.mp hc with hc | hc
    · exact hx c hc
    · exact hh _ c hc
  · exact hx

@[simp] theorem allCalls_pure (P : Call → Prop) (a : α) : AllCalls P (pure a : Async α) :=
  fun _ h => by cases h

@[simp] theorem allCalls_mk (P : Call → Prop) (cs : List Call) (r : Except JsError α) :
    AllCalls P ⟨cs, r⟩ ↔ ∀ c ∈ cs, P c := Iff.rfl

end Async

end CoordinatorSwap

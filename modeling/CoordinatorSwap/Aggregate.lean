import CoordinatorSwap.Types

/-!
# Approval aggregation, as the protocol states it

What aggregating the coordinator servers' answers is for, independent of how the consumer
computes it. The batch's orders that need an approval are split into groups, one per server;
the others need none. Each server either approves, with signatures that share one expiration
time, or refuses.

If every server approves, the result is every server's signatures, in group order, each paired
with the expiration time of the server that signed it. Otherwise the result names the orders
that may still be filled (the approving servers' groups and the orders that need no approval)
and each refusing server with its whole group.

`getCoordinatorApprovalsAsync_refines` shows that the consumer computes `aggregate`.
-/

namespace CoordinatorSwap

open scoped List

/-- A server's answer to the transaction. -/
inductive Verdict where
  | approve (signatures : List String) (expirationTimeSeconds : Nat)
  | refuse
  deriving DecidableEq, Repr

namespace Verdict

def approves : Verdict → Bool
  | approve .. => true
  | refuse => false

/-- The signatures of an approval, each with the expiration time it carries. -/
def pairs : Verdict → List (String × Nat)
  | approve signatures e => signatures.map (·, e)
  | refuse => []

end Verdict

inductive AggregateResult where
  /-- Every server approved. -/
  | success (approvals : List (String × Nat))
  /-- Some server refused. -/
  | failure (approvedOrders : List SignedOrder) (refusals : List (Endpoint × List SignedOrder))
  deriving DecidableEq, Repr

/-- Aggregation over the groups, in order, and the orders `free` that need no approval. -/
def aggregate (groups : List (Endpoint × List SignedOrder)) (free : List SignedOrder)
    (verdict : Endpoint → Verdict) : AggregateResult :=
  if groups.all fun g => (verdict g.1).approves then
    .success (groups.flatMap fun g => (verdict g.1).pairs)
  else
    .failure ((groups.filter fun g => (verdict g.1).approves).flatMap Prod.snd ++ free)
      (groups.filter fun g => !(verdict g.1).approves)

/-- Splitting groups by a test, with other orders between the two sides, loses and adds
nothing. -/
theorem flatMap_filter_append_perm {α β : Type} (l : List α) (p : α → Bool) (f : α → List β)
    (free : List β) :
    (l.filter p).flatMap f ++ free ++ (l.filter fun x => !p x).flatMap f ~ l.flatMap f ++ free := by
  calc _ ~ (l.filter p).flatMap f ++ (l.filter fun x => !p x).flatMap f ++ free := by
        rw [List.append_assoc, List.append_assoc]
        exact List.Perm.append_left _ List.perm_append_comm
    _ ~ l.flatMap f ++ free := by
        rw [← List.flatMap_append]
        exact ((List.filter_append_perm p l).flatMap_right f).append_right _

end CoordinatorSwap

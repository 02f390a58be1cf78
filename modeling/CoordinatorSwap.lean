import CoordinatorSwap.Types
import CoordinatorSwap.Async
import CoordinatorSwap.Approvals
import CoordinatorSwap.Aggregate
import CoordinatorSwap.ApprovalLaws
import CoordinatorSwap.Consumer
import CoordinatorSwap.ConsumerLaws
import CoordinatorSwap.FirstRevision

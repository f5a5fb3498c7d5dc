import HugePool.Gate.Session
import HugePool.Main
import HugePool.Platform.Scripted
import HugePool.Session.Basic
import HugePool.Proofs.Word.Rounding
import HugePool.Proofs.Word.Least
import HugePool.Proofs.Address.Checked
import HugePool.Proofs.Address.Interval
import HugePool.Proofs.Geometry.Sound
import HugePool.Proofs.Geometry.Exact
import HugePool.Proofs.Geometry.Placement
import HugePool.Proofs.PageMap.Lookup
import HugePool.Proofs.PageMap.Writing
import HugePool.Proofs.Gate.Exclusion
import HugePool.Proofs.Gate.Serial
import HugePool.Proofs.Gate.SharedStack
import HugePool.Proofs.Pool.Creation
import HugePool.Proofs.Pool.Custody
import HugePool.Proofs.Pool.Translation
import HugePool.Proofs.Pool.Contiguity
import HugePool.Proofs.Pool.Lifo
import HugePool.Proofs.Pool.Freshness
import HugePool.Proofs.Journal.Ledger
import HugePool.Proofs.Journal.Conversation
import HugePool.Proofs.Pool.Unwinding
import HugePool.Proofs.Pool.Ownership
import HugePool.Proofs.Pool.Attempt
import HugePool.Proofs.Pool.Accounts
import HugePool.Proofs.Pool.Spans
import HugePool.Proofs.Pool.Refusals
import HugePool.Proofs.Pool.Lengths
import HugePool.Proofs.Pool.Arithmetic
import HugePool.Proofs.Pool.Positions
import HugePool.Proofs.Pool.Single
import HugePool.Proofs.Journal.Records
import HugePool.Proofs.Pool.Notices
import HugePool.Proofs.Journal.Stages
import HugePool.Proofs.Journal.Yields
import HugePool.Proofs.Geometry.Plan
import HugePool.Proofs.Soak.Needs
import HugePool.Proofs.Soak.Heap
import HugePool.Proofs.Soak.Visits
import HugePool.Proofs.Soak.Batch
import HugePool.Proofs.Soak.Work
import HugePool.Proofs.Soak.Rounds

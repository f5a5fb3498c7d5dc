import HugePool.Session.Command

/-!
# Replies of a session
-/

namespace HugePool

/-- What a session replies to a command. -/
inductive Reply where
  | done
  | truth (value : Bool)
  | text (value : String)
  | number (value : Nat)
  | address (value : UInt64)
  | addressIfAny (value : Option UInt64)
  /-- What a pool is, and the buffer taken from it at once. -/
  | info (pool : Pool) (single : Option Buffer)
  | buffer (taken : Buffer)
  /-- Buffers that were taken, and why there are no more. -/
  | buffers (taken : List VirtAddr) (ended : Option StackError)
  | pages (records : List PageRecord)
  | bytes (values : List UInt8)
  /-- The number of free buffers, and the free buffers in order. -/
  | contention (available : Nat) (free : List VirtAddr)
  | ended (name : String)
  | refused (kind message : String)
  | panicked (cause : Panic)
  | aborted
  | noPool
  /-- A reference does not stand for anything. -/
  | badReference
  | outsidePool
  | outsideBuffer

/-- The reply to an operation that ended in some way. -/
def Outcome.reply {ε α : Type} (o : Outcome ε α) (refuse : ε → Reply) (answer : α → Reply) :
    Reply :=
  match o with
  | .ok value => answer value
  | .error cause => refuse cause
  | .panic cause => .panicked cause
  | .abort => .aborted

namespace Reply

/-- The reply to a failed creation. -/
def ofCreateError (e : CreateError) : Reply := .refused e.kind e.message

/-- The reply to an address that could not be translated. -/
def ofTranslateError (e : TranslateError) : Reply := .refused e.kind e.message

/-- The reply to a failure of the stack of free buffers. -/
def ofStackError (e : StackError) : Reply := .refused e.kind e.message

/-- The reply to a refused span. -/
def ofSpanError (e : SpanError) : Reply := .refused e.kind e.message

end Reply

end HugePool

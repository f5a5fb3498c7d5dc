/-!
# Refusals of the operating system

What the operating system answers when it cannot open or read a file or hand out memory.
-/

namespace HugePool

/-- A refusal of the operating system. -/
inductive SystemError where
  | notFound
  | isDirectory
  | invalidArgument
  | noMemory
  /-- The file ends inside the span to be read. -/
  | shortRead
  | other (text : String)
  deriving DecidableEq, Repr

/-- The text of a refusal. -/
def SystemError.message : SystemError → String
  | .notFound => "No such file or directory (os error 2)"
  | .isDirectory => "Is a directory (os error 21)"
  | .invalidArgument => "Invalid argument (os error 22)"
  | .noMemory => "Cannot allocate memory (os error 12)"
  | .shortRead => "failed to fill whole buffer"
  | .other text => text

end HugePool

import HugePool.Journal.Record

/-!
# Options of the soak check

The check is started with options of the forms `--name value` and `--name=value`, and with the
switch `--heap`.  Each may be given once.  An argument of its own that starts with a dash is no
value.  A number is written in decimal digits, with a plus sign in front or without; a level of the
log goes by its name in lower case.  Two dashes alone end the options, and nothing may follow them.
-/

namespace HugePool.Soak

/-- How the soak check is to run. -/
structure Options where
  heap : Bool := false
  alignment : UInt64 := 256
  /-- The distance between the bytes of a buffer that are translated. -/
  stride : UInt64 := 1
  rounds : UInt64 := 1
  device : UInt32 := 0
  /-- The last level that is written, if any is. -/
  level : Option LogLevel := some .info
  deriving DecidableEq, Repr

/-- The options that were given. -/
structure GivenOptions where
  heap : Bool := false
  alignment : Option UInt64 := none
  stride : Option UInt64 := none
  rounds : Option UInt64 := none
  device : Option UInt32 := none
  level : Option (Option LogLevel) := none

/-- A number of decimal digits, with a plus sign in front or without, below a bound. -/
def number? (bound : Nat) (text : List Char) : Option Nat :=
  let digits := match text with
    | '+' :: rest => rest
    | _ => text
  if digits.isEmpty || !digits.all Char.isDigit then none
  else
    let n := digits.foldl (fun n c => 10 * n + (c.toNat - '0'.toNat)) 0
    if n < bound then some n else none

/-- A word of 64 bits. -/
def word? (text : String) : Option UInt64 := (number? UInt64.size text.toList).map UInt64.ofNat

/-- A word of 32 bits.  It is read as a signed number, so that zero may have a minus sign. -/
def halfWord? (text : String) : Option UInt32 :=
  match text.toList with
  | '-' :: digits => if !digits.isEmpty && digits.all (· == '0') then some 0 else none
  | chars => (number? UInt32.size chars).map UInt32.ofNat

/-- A level of the log, or its absence. -/
def level? : String → Option (Option LogLevel)
  | "off" => some none
  | "error" => some (some .error)
  | "warn" => some (some .warn)
  | "info" => some (some .info)
  | "debug" => some (some .debug)
  | "trace" => some (some .trace)
  | _ => none

namespace GivenOptions

/-- Enters the value of an option that was not given before. -/
def enter (g : GivenOptions) (name value : String) : Option GivenOptions :=
  match name with
  | "--alignment" =>
    if g.alignment.isSome then none
    else (word? value).map fun w => { g with alignment := some w }
  | "--stride" =>
    if g.stride.isSome then none else (word? value).map fun w => { g with stride := some w }
  | "--rounds" =>
    if g.rounds.isSome then none else (word? value).map fun w => { g with rounds := some w }
  | "--device" =>
    if g.device.isSome then none else (halfWord? value).map fun w => { g with device := some w }
  | "--log-level" =>
    if g.level.isSome then none else (level? value).map fun l => { g with level := some l }
  | _ => none

/-- The options, with their defaults where they were not given. -/
def fill (g : GivenOptions) : Options :=
  let d : Options := {}
  ⟨g.heap, g.alignment.getD d.alignment, g.stride.getD d.stride, g.rounds.getD d.rounds,
    g.device.getD d.device, g.level.getD d.level⟩

/-- The two sides of the first equals sign of an argument. -/
def splitValue (argument : String) : String × Option String :=
  let chars := argument.toList
  match chars.dropWhile (· ≠ '=') with
  | _ :: value => (String.ofList (chars.takeWhile (· ≠ '=')), some (String.ofList value))
  | [] => (argument, none)

/-- Reads arguments one after the other; `none` when one of them is wrong. -/
def read (g : GivenOptions) : List String → Option GivenOptions
  | [] => some g
  | argument :: rest =>
    if argument = "--" then
      if rest.isEmpty then some g else none
    else if argument = "--heap" then
      if g.heap then none else { g with heap := true }.read rest
    else
      match splitValue argument with
      | (name, some value) => (g.enter name value).bind (·.read rest)
      | (name, none) =>
        match rest with
        | [] => none
        | value :: rest =>
          if value.toList.head? = some '-' then none
          else (g.enter name value).bind (·.read rest)

end GivenOptions

/-- The options that a list of arguments gives; `none` when the arguments are wrong. -/
def Options.ofArguments? (arguments : List String) : Option Options :=
  (GivenOptions.read {} arguments).map GivenOptions.fill

end HugePool.Soak

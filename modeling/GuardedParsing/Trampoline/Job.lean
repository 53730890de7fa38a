import GuardedParsing.Trampoline.Run
import GuardedParsing.Value.Transform

/-!
# Jobs

A job is a trampoline described by data. Its deferred steps and continuations carry tags: a tag
is put on the trace when its step is taken. `Job.trampoline` builds the trampoline, without
taking any step.
-/

namespace GuardedParsing

/-- A computation that leaves a trace and may stop with a message. -/
abbrev Traced (α : Type) := Trampoline (Array String) String α

/-- A trampoline as data. -/
inductive Job where
  | done (v : Value)
  /-- A job that is deferred. -/
  | more (job : Job) (tag : String)
  | map (job : Job) (f : Transform) (tag : String)
  /-- A job and then another one. -/
  | andThen (first second : Job) (tag : String)
  /-- A job and then another one, with the values of both. -/
  | pair (first second : Job) (tag : String)
  /-- A deferred step that stops with a message. -/
  | stop (message : String)
  /-- Counts deferred steps. -/
  | count (n : Nat)
  /-- The sum of the numbers up to `n`, with an addition left to do after every step. -/
  | sumTo (n : Nat)
  /-- Adds 1 as often as `n` times, with binds nested to the left. -/
  | leftNest (n : Nat)
  /-- A value under `n` deferred steps. -/
  | moreNest (n : Nat)
  /-- Is a number even? Two computations call each other. -/
  | even (n : Nat)

namespace Job

/-- Puts a tag on the trace. -/
def trace (tag : String) : Traced Unit := .update (·.push tag)

/-- Counts `n` steps from `counted` on. -/
def countFrom (counted : Int64) : Nat → Traced Int64
  | 0 => .done counted
  | n + 1 => .more fun _ => countFrom (counted + 1) n

/-- The sum of the numbers up to `n`. -/
def sumUpTo : Nat → Traced Int64
  | 0 => .done 0
  | n + 1 => (Trampoline.more fun _ => sumUpTo n).mapValue (· + Int64.ofNat (n + 1))

/-- Binds a computation to `n` steps that add 1. -/
def addOnes (t : Traced Int64) : Nat → Traced Int64
  | 0 => t
  | n + 1 => addOnes (t.flatMap fun k => .more fun _ => .done (k + 1)) n

/-- A value under `n` deferred steps. -/
def deferred (v : Value) : Nat → Traced Value
  | 0 => .done v
  | n + 1 => .more fun _ => deferred v n

/-- Is `n` even, or is it odd? The question is passed on to the number before. -/
def parity (whenZero : Bool) : Nat → Traced Bool
  | 0 => .done whenZero
  | n + 1 => .more fun _ => parity (!whenZero) n

/-- The trampoline that a job describes. -/
def trampoline : Job → Traced Value
  | done v => .done v
  | more job tag => .more fun _ => (trace tag).flatMap fun _ => job.trampoline
  | map job f tag =>
    job.trampoline.flatMap fun v => (trace tag).flatMap fun _ => .done (f.apply v)
  | andThen first second tag =>
    first.trampoline.flatMap fun _ => (trace tag).flatMap fun _ => second.trampoline
  | pair first second tag =>
    first.trampoline.flatMap fun a => (trace tag).flatMap fun _ =>
      second.trampoline.mapValue fun b => .pair a b
  | stop message => .more fun _ => .stop message
  | count n => (countFrom 0 n).mapValue .int
  | sumTo n => (sumUpTo n).mapValue .int
  | leftNest n => (addOnes (.done 0) n).mapValue .int
  | moreNest n => deferred (.int (Int64.ofNat n)) n
  | even n => (parity true n).mapValue .bool

/-- Runs a job: whether no step was left to take, the value or the message, and the trace, which
starts with a tag for the run. -/
def run (job : Job) : Bool × Except String Value × Array String :=
  let t := job.trampoline
  let (result, trace) := t.run #["run"]
  (t.isDone, result, trace)

end Job

end GuardedParsing

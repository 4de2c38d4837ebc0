import VariableBridge.Error

/-!
# The safety check

A strict bridge refuses to run on a thread with a real-time policy. The policy
is probed at the first cycle of a span only; its verdict holds until the gate
is armed again. The answers of a probe may change from call to call.
-/

namespace VariableBridge

open Number (intText)

/-- Scheduling policy of a thread. -/
inductive SchedPolicy where
  /-- First in, first out; real-time. -/
  | fifo
  /-- Taking turns; real-time. -/
  | roundRobin
  /-- A policy that is not real-time, by its number. -/
  | other (number : Int32)
  deriving DecidableEq, Repr

namespace SchedPolicy

/-- Is the policy a real-time one? -/
def isRealTime : SchedPolicy → Bool
  | .fifo => true
  | .roundRobin => true
  | .other _ => false

/-- The name of a policy in messages. -/
def name : SchedPolicy → String
  | .fifo => "SCHED_FIFO"
  | .roundRobin => "SCHED_RR"
  | .other number => "policy " ++ intText number.toInt

end SchedPolicy

/-- Something that tells the policy of the thread. -/
structure Probe where
  /-- The answer to the call with this number, counted from zero. -/
  answer : Nat → Except BridgeError SchedPolicy
  /-- Number of calls so far. -/
  calls : Nat

namespace Probe

/-- A probe of a thread that is not real-time. -/
def ordinary : Probe := ⟨fun _ => .ok (.other 0), 0⟩

instance : Inhabited Probe := ⟨ordinary⟩

/-- A probe that gives these answers in turn and repeats the last one; without any it
answers like an ordinary thread. -/
def ofAnswers (answers : List (Except BridgeError SchedPolicy)) : Probe :=
  ⟨fun call => (answers[call]?.or answers.getLast?).getD (.ok (.other 0)), 0⟩

/-- One call. -/
def ask (p : Probe) : Except BridgeError SchedPolicy × Probe :=
  (p.answer p.calls, { p with calls := p.calls + 1 })

/-- What a strict gate makes of an answer. -/
def verdict : Except BridgeError SchedPolicy → Except BridgeError Unit
  | .error error => .error error
  | .ok policy => if policy.isRealTime then .error (.realTimeSafety policy.name) else .ok ()

end Probe

/-- The check of one span. -/
structure Gate where
  /-- Is a real-time thread refused? -/
  strict : Bool
  /-- Has the check of this span been made? -/
  checked : Bool
  /-- Why the check failed, if it did. -/
  violation : Option BridgeError
  deriving DecidableEq, Repr, Inhabited

namespace Gate

/-- A gate whose check has not been made. -/
def new (strict : Bool) : Gate := ⟨strict, false, none⟩

/-- The verdict that a gate repeats once the check has been made. -/
def recorded (g : Gate) : Except BridgeError Unit :=
  match g.violation with
  | some error => .error error
  | none => .ok ()

/-- The failure in a verdict. -/
def failureOf : Except BridgeError Unit → Option BridgeError
  | .error error => some error
  | .ok () => none

/-- Make the check if this span had none, otherwise repeat its verdict. -/
def check (g : Gate) (p : Probe) : Except BridgeError Unit × Gate × Probe :=
  if g.checked then (g.recorded, g, p)
  else if g.strict then
    let (answer, asked) := p.ask
    let verdict := Probe.verdict answer
    (verdict, { g with checked := true, violation := failureOf verdict }, asked)
  else (.ok (), { g with checked := true }, p)

/-- Forget the verdict, so that the next span is checked again. -/
def rearm (g : Gate) : Gate := { g with checked := false, violation := none }

/-- Arming a gate again keeps its strictness, which is settled when the bridge is prepared and not
from span to span. -/
@[simp] theorem strict_rearm (g : Gate) : g.rearm.strict = g.strict := rfl

/-- After a check the check of the span has been made, whatever it found out: no later admission
asks a probe. -/
@[simp] theorem checked_check (g : Gate) (p : Probe) : (g.check p).2.1.checked = true := by
  unfold check
  split
  · assumption
  · split <;> rfl

end Gate

end VariableBridge

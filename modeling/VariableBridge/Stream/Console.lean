import VariableBridge.Number.Fixed
import VariableBridge.Stream.Subscriber

/-!
# Messages on the console

Each message that is shown takes one line. Of a sample only the first values are
shown, floats with three decimals.
-/

namespace VariableBridge

open Number (intText natText)

/-- Values of a sample that are shown. -/
def shownValues : Nat := 6

/-- Decimals of a float that are shown. -/
def shownDecimals : Nat := 3

namespace SampleValues

/-- The texts of the first values. -/
def texts : SampleValues → List String
  | .int32 values => (values.take shownValues).map fun n => intText n.toInt
  | .float32 values => (values.take shownValues).map fun x => x.fixedText shownDecimals
  | .float64 values => (values.take shownValues).map fun x => x.fixedText shownDecimals

/-- How many values are left out. -/
def hidden (v : SampleValues) : Nat := v.length - shownValues

/-- The values in brackets, with the number of those that are left out. -/
def text (v : SampleValues) : String :=
  let more := if v.hidden = 0 then [] else ["… (+" ++ natText v.hidden ++ ")"]
  "[" ++ ", ".intercalate (v.texts ++ more) ++ "]"

end SampleValues

/-- A text with blanks behind it, at least this long. -/
def padEnd (width : Nat) (s : String) : String :=
  s ++ String.ofList (List.replicate (width - s.length) ' ')

namespace BusMessage

/-- The line of a message, if it is shown; samples are not shown if the output is quiet. -/
def line? (quiet : Bool) : BusMessage → Option String
  | .opened _ info => some ("  + " ++ info.name ++ " " ++ info.typeLabel ++ " × " ++
      natText info.channelCount.toNat ++ " @ " ++ info.nominalRate.fixedText 1 ++ " Hz")
  | .closed _ name => some ("  - " ++ name)
  | .sample frame =>
    if quiet then none
    else some ("    " ++ padEnd 8 frame.name ++ " #" ++ padEnd 5 (natText frame.sequence) ++ " " ++
      frame.values.text)

end BusMessage

/-- The line of an event, if it is shown; lost messages are not. -/
def BusEvent.line? (quiet : Bool) : BusEvent → Option String
  | .message m => m.line? quiet
  | .lagged _ => none

end VariableBridge

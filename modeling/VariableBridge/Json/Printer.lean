import VariableBridge.Json.Text
import VariableBridge.Json.Value

/-!
# Writing JSON

Values are written without spaces, members in their order.
-/

namespace VariableBridge.Json

/-- A numeral as it is written. -/
def writeNumeral (n : Numeral) : List Char :=
  (if n.negative then ['-'] else []) ++ n.whole ++
    (if n.fraction.isEmpty then [] else '.' :: n.fraction) ++
    match n.power with
    | none => []
    | some (negative, digits) => 'e' :: (if negative then '-' else '+') :: digits

/-- A string; one that forms no text is empty. -/
def writeContent (content : Option String) : List Char := writeText (content.getD "")

mutual

/-- A value. -/
def writeValue : Value → List Char
  | .null => ['n', 'u', 'l', 'l']
  | .bool true => ['t', 'r', 'u', 'e']
  | .bool false => ['f', 'a', 'l', 's', 'e']
  | .number numeral => writeNumeral numeral
  | .string content => writeContent content
  | .array elements => '[' :: writeElements elements
  | .object members => '\x7b' :: writeMembers members

/-- The elements of an array and its end. -/
def writeElements : List Value → List Char
  | [] => [']']
  | [value] => writeValue value ++ [']']
  | value :: next :: rest => writeValue value ++ ',' :: writeElements (next :: rest)

/-- The members of an object and its end. -/
def writeMembers : List (Option String × Value) → List Char
  | [] => ['\x7d']
  | [(name, value)] => writeContent name ++ ':' :: writeValue value ++ ['\x7d']
  | (name, value) :: next :: rest =>
    writeContent name ++ ':' :: writeValue value ++ ',' :: writeMembers (next :: rest)

end

/-- The text of a value. -/
def print (v : Value) : String := String.ofList (writeValue v)

end VariableBridge.Json

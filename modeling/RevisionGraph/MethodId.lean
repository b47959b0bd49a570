import RevisionGraph.Json.Field

/-!
# Method ids

Inside one revision a method is addressed by an integer.  A document writes it as an integer or as
a run of ASCII digits, in which leading zeros count for nothing; it is never negative there.
-/

set_option autoImplicit false

namespace RevisionGraph

/-- What a method is called by inside a revision. -/
abbrev MethodId := Int

namespace MethodId

/-- The id that a run of digits denotes. -/
def ofText (s : String) : Result MethodId :=
  if Text.isDecimal s.toList then
    if Text.digitLimit < s.length then .error (.conversion (.tooManyDigitsToRead s.length))
    else .ok (Text.readDecimal s.toList)
  else Json.wrongShape (.methodIdNotInteger (.text s))

/-- The id that a text written by hand denotes, which may have blanks around it, a sign and digits
of any script. -/
def ofHandwritten (s : String) : Result MethodId :=
  match Text.readInteger? s, Text.excessDigits? s with
  | some i, _ => .ok i
  | none, some count => .error (.conversion (.tooManyDigitsToRead count))
  | none, none => .error (.conversion (.notInteger s))

/-- The id that a value of a document denotes. -/
def ofJson : Json → Result MethodId
  | .int i => if i < 0 then Json.wrongShape (.methodIdNegative i) else .ok i
  | .text s => ofText s
  | value => Json.wrongShape (.methodIdNotInteger value)

end MethodId

end RevisionGraph

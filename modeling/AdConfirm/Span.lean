/-!
Lengths of time in milliseconds, as text: whole seconds and their decimals without closing zeros from one second on,
whole milliseconds below, and zero in its least unit.
-/

namespace AdConfirm

/-- text of a length of time given in milliseconds -/
def spanText (ms : Nat) : String :=
  if ms = 0 then "0ns"
  else if ms < 1000 then toString ms ++ "ms"
  else
    let part := ms % 1000
    let decimals := [part / 100, part / 10 % 10, part % 10].map fun d => Char.ofNat (48 + d)
    let decimals := (decimals.reverse.dropWhile (· = '0')).reverse
    let fraction := if decimals.isEmpty then "" else "." ++ String.ofList decimals
    toString (ms / 1000) ++ fraction ++ "s"

/-- text of a length of time that may be absent, given in seconds -/
def secondsOptionText : Option Nat → String
  | none => "None"
  | some s => "Some(" ++ spanText (1000 * s) ++ ")"

end AdConfirm

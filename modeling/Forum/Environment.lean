import Forum.Text.Cut

/-!
# Environment

The variables of a process, each a line `name=value`. The value of a name is what follows the name and an equals sign on
its line, so that a name may go on behind the first equals sign. What is defined first stays: a later definition of a
name changes nothing.
-/

namespace Forum

/-- Variables with their values. -/
abbrev Environment := List (String × String)

namespace Environment

/-- The value of a variable. -/
def get? (e : Environment) (name : String) : Option String :=
  let first := name.toList.takeWhile (· ≠ '=')
  if first = [] then none
  else
    match name.toList.drop first.length with
    | [] => e.lookup name
    | _ :: later =>
      (e.lookup (String.ofList first)).bind fun value =>
        (Text.after? (later ++ ['=']) value.toList).map String.ofList

/-- Defines a variable that is not defined. -/
def define (e : Environment) (name value : String) : Environment :=
  match e.get? name with
  | some _ => e
  | none => (name, value) :: e

end Environment

end Forum

import Forum.Replicator

/-!
# The program

Reads the environment and the environment file, runs the replicator and prints what it leaves behind. Nothing outside of
this computer can be reached from here: neither a database nor a message server.
-/

namespace Forum.Program

/-- Splits a block of octets that end with zero each into the variables that they are. -/
def environmentOf (block : List UInt8) : Environment :=
  (block.splitOn 0).filterMap fun octets => do
    let line ← String.fromUTF8? (ByteArray.mk octets.toArray)
    match line.toList.span (· ≠ '=') with
    | (name, _ :: value) => some (String.ofList name, String.ofList value)
    | (_, []) => none

/-- The environment that the program was started in. -/
def readEnvironment : IO Environment := do
  try
    return environmentOf (← IO.FS.readBinFile "/proc/self/environ").toList
  catch _ => return []

/-- The file of a name, as far as it can be read. -/
def readNamed (name : Option String) : IO Files := do
  match name with
  | none => return fun _ => none
  | some name =>
    let found ← (do
      try
        return some (.ok (← IO.FS.readBinFile name).toList)
      catch
        | .noFileOrDirectory .. => return none
        | .inappropriateType _ code _ => return if code = 21 then some (.error Files.isFolder) else none
        | e => return some (.error (toString e)) : IO (Option (Except String (List UInt8))))
    return fun path => if path = name then found else none

/-- Why nothing can be reached. -/
def unreachable : String := "Network is unreachable (os error 101)"

/-- A host without a network. -/
def lonelyHost : Replicator.Host Database.Session where
  database _ := .error (.connectionLost unreachable)
  session := ⟨id, fun s _ => s⟩
  connect _ _ := throw (.connection s!"IO error: {unreachable}")
  subscribe _ := throw .closed
  send _ _ _ := throw .closed
  arrivals _ := []

end Forum.Program

open Forum Program in
/-- Runs the replicator and answers with its exit code. -/
def main (args : List String) : IO UInt32 := do
  let e ← readEnvironment
  let name := match CommandLine.parse e.get? args with
    | .ok (.run options) => options.environmentFile
    | _ => none
  let (x, _) := Replicator.run lonelyHost args e (← readNamed name) (.new [] [] none)
  IO.print x.stdout
  IO.eprint x.stderr
  return x.code.toUInt32

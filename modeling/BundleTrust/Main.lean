import BundleTrust.CommandLine.Session

/-!
# The program

The command line of the machine that the program runs on.
-/

namespace BundleTrust
namespace CommandLine

/-- The wording of a failure of the machine. -/
def machineText : IO.Error → String
  | .noFileOrDirectory _ _ _ => "No such file or directory (os error 2)"
  | .permissionDenied _ _ _ => "Permission denied (os error 13)"
  | .alreadyExists _ _ _ => "File exists (os error 17)"
  | .inappropriateType _ _ detail =>
      if detail = "not a directory" then "Not a directory (os error 20)"
      else "Is a directory (os error 21)"
  | failure => toString failure

/-- Do something and report how it fails. -/
def attemptIO {Answer : Type} (action : IO Answer) : IO (Except String Answer) := do
  match ← action.toBaseIO with
  | .ok answer => return .ok answer
  | .error failure => return .error (machineText failure)

/-- Whether there is something at a path. -/
def existsPath (path : String) : IO Bool := do
  let opening : IO IO.FS.Handle := IO.FS.Handle.mk path .read
  match ← opening.toBaseIO with
  | .ok _ => return true
  | .error (.noFileOrDirectory _ _ _) => return false
  | .error (.inappropriateType _ _ detail) => return detail ≠ "not a directory"
  | .error _ => return true

/-- The text of octets that were read. -/
def textOfOctets (octets : ByteArray) : Except String String :=
  match String.fromUTF8? octets with
  | some text => .ok text
  | none => .error "stream did not contain valid UTF-8"

/-- Answer a request of a command. -/
def answerRequest : (request : SessionRequest) → IO request.Reply
  | .load path => do return (← attemptIO (IO.FS.readBinFile path)).bind textOfOctets
  | .loadInput => attemptIO do (← IO.getStdin).readToEnd
  | .save path content => attemptIO (IO.FS.writeFile path content)
  | .restrict path =>
      attemptIO (IO.setAccessRights path { user := { read := true, write := true } })
  | .createDirectory path => attemptIO (IO.FS.createDirAll path)
  | .findPath path => existsPath path
  | .randomOctets count => do return (← IO.getRandomBytes count.toUSize).toList

/-- Run a command on the machine. -/
def perform {Answer : Type} : Session Answer → IO Answer
  | .done answer => pure answer
  | .ask request next => do
      let reply ← answerRequest request
      perform (next reply)

end CommandLine
end BundleTrust

/-- Run the command line. -/
def main (arguments : List String) : IO UInt32 := do
  let publicKey ← IO.getEnv BundleTrust.TrustDomain.publicKeyVariable
  let lookup := fun name =>
    if name = BundleTrust.TrustDomain.publicKeyVariable then publicKey else none
  let result ← BundleTrust.CommandLine.perform (BundleTrust.CommandLine.run lookup arguments)
  IO.print result.output
  IO.eprint result.errors
  return UInt32.ofNat result.status

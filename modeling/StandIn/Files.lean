import StandIn.Octets

/-!
# Files

* `Files` — what the files of a host hold.  All that a stand-in reads, it reads when it starts.
-/

namespace StandIn

/-- The contents of a file, or why it cannot be read. -/
abbrev Files := String → Except String Octets

/-- Why a file cannot be read that is not there. -/
def Files.missing : String := "No such file or directory (os error 2)"

/-- Files of which only those listed are there, some of which may not be readable. -/
def Files.ofResults (contents : List (String × Except String Octets)) : Files := fun path =>
  match contents.lookup path with
  | some result => result
  | none => .error missing

/-- Files of which only those listed are there. -/
def Files.ofList (contents : List (String × Octets)) : Files :=
  .ofResults (contents.map fun (path, bs) => (path, .ok bs))

end StandIn

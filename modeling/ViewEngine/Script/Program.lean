/-
# Compiling scripts

A script is compiled once and can then be run any number of times.  A script that cannot be compiled
is reported with the line to blame, if there is one.
-/
import ViewEngine.Script.Blame
import ViewEngine.Script.Check
import ViewEngine.Script.Fold
import ViewEngine.Script.Parser

namespace ViewEngine.Script

/-- Compiles a script; the line to blame if it cannot be compiled. -/
def compile (code : Text) : Except (Option Nat) Program :=
  if code.contains '\x00' then .error none
  else
    match parse? code with
    | none => .error (some ((wrongLine? code).getD 1))
    | some s =>
      let folded := foldStatements s
      match check code.length folded with
      | .error line => .error (some line)
      | .ok _ => .ok folded

end ViewEngine.Script

import GameTables.Gate.Error

/-!
# Arguments of the gate

The sources, the sentinel, the separator `--` and the command, which may hold separators of its own.
-/

namespace GameTables

structure GateArguments where
  sources : List Bytes
  sentinel : Bytes
  /-- The program and its arguments. -/
  command : List Bytes
  deriving DecidableEq, Repr

namespace GateArguments

/-- The argument before the command. -/
def separator : Bytes := [45, 45]

/-- Splits arguments at the first separator. -/
def parse (arguments : List Bytes) : Except MissingArgument GateArguments :=
  let files := arguments.takeWhile (· ≠ separator)
  match arguments.dropWhile (· ≠ separator), files.getLast? with
  | [], _ => .error .separator
  | _ :: _, none => .error .sentinel
  | [_], some _ => .error .command
  | _ :: command, some sentinel => .ok ⟨files.dropLast, sentinel, command⟩

end GateArguments

end GameTables

import TerminalSessions.Failure
import TerminalSessions.Registry.Description
import TerminalSessions.Registry.Operation

namespace TerminalSessions

open TerminalSessions.Text (decimal)

def busyText (registry : Registry) : String :=
  "busy: " ++ (if registry.anyBusy then "true" else "false")

def Command.apply (command : Command) (registry : Registry) : Step (Except Failure String) :=
  match command with
  | new caption =>
    (registry.createNamed caption).map fun
      | some sequence => .ok ("starting terminal " ++ decimal sequence.toNat)
      | none => .error (.captionInUse caption)
  | list => registry.unchanged (.ok registry.listing)
  | retitle handle title =>
    if registry.contains handle then
      (registry.retitle handle title).map fun changed =>
        .ok (handle ++ if changed then " retitled" else " unchanged")
    else registry.unchanged (.error (.unknownTerminal handle))
  | close handle =>
    (registry.close handle).map fun closed =>
      if closed then .ok (handle ++ " closed") else .error (.unknownTerminal handle)
  | reconnect handle =>
    (registry.reconnect handle).map fun known =>
      if known then .ok ("reconnecting " ++ handle) else .error (.unknownTerminal handle)
  | subprocs handle active =>
    (registry.notify (.subprocessesChanged handle active)).andThen fun registry =>
      registry.unchanged (.ok (busyText registry))
  | cwd handle directory =>
    (registry.notify (.workingDirectoryChanged handle directory)).map fun _ => .ok ""
  | find caption =>
    registry.unchanged
      (.ok ((registry.handleFor? caption).getD ("no terminal called '" ++ caption ++ "'")))
  | busy => registry.unchanged (.ok (busyText registry))
  | terminateAll =>
    registry.terminateAll.map fun _ =>
      .ok ("terminated " ++ decimal registry.terminals.length ++ " terminal(s)")
  | save => registry.unchanged (.error (.needsConsole .save))
  | quit => registry.unchanged (.error (.needsConsole .quit))

end TerminalSessions

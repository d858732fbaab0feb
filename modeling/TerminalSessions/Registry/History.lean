import TerminalSessions.Registry.Operation

namespace TerminalSessions

inductive Operation
  | add (terminal : Terminal)
  | restore (saved : List SavedTerminal)
  | remove (handle : String)
  | close (handle : String)
  | terminateAll
  | retitle (handle title : String)
  | notify (notification : Notification)
  | createNew
  | createNamed (caption : String)
  | reconnect (handle : String)
  deriving DecidableEq, Repr

inductive Answer
  | done
  | flag (value : Bool)
  | sequence (value : Option UInt32)
  deriving DecidableEq, Repr

namespace Registry

def perform (registry : Registry) : Operation → Step Answer
  | .add terminal => (registry.add terminal).map fun _ => .done
  | .restore saved => (registry.restore saved).map fun _ => .done
  | .remove handle => (registry.remove handle).map fun _ => .done
  | .close handle => (registry.close handle).map .flag
  | .terminateAll => registry.terminateAll.map fun _ => .done
  | .retitle handle title => (registry.retitle handle title).map .flag
  | .notify notification => (registry.notify notification).map fun _ => .done
  | .createNew => registry.createNew.map fun sequence => .sequence (some sequence)
  | .createNamed caption => (registry.createNamed caption).map .sequence
  | .reconnect handle => (registry.reconnect handle).map .flag

def performAll (registry : Registry) : List Operation → Step (List Answer)
  | [] => registry.unchanged []
  | operation :: others =>
    let first := registry.perform operation
    let later := first.registry.performAll others
    ⟨first.answer :: later.answer, later.registry, first.effects ++ later.effects⟩

def Reachable (registry : Registry) : Prop :=
  ∃ preferences operations, ((empty preferences).performAll operations).registry = registry

end Registry

end TerminalSessions

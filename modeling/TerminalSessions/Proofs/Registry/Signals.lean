import Mathlib.Data.List.Induction
import TerminalSessions.Proofs.Registry.Edits

/-! When operations give the busy signal: behind all that they change, with the value that holds at that moment. -/

namespace TerminalSessions

inductive Action
  | edit (edit : Edit)
  | signal
  | start (request : SessionRequest)
  | reap (handle : String)
  deriving DecidableEq, Repr

namespace Action

def apply (registry : Registry) : Action → Registry
  | .edit change => change.apply registry
  | _ => registry

def effects (registry : Registry) : Action → List Effect
  | .edit _ => []
  | .signal => [registry.signal]
  | .start request => [.start request]
  | .reap handle => [.reap registry handle]

def carryOut (registry : Registry) : List Action → Step Unit
  | [] => registry.unchanged ()
  | action :: actions => Step.andThen ⟨(), action.apply registry, action.effects registry⟩ (carryOut · actions)

def signalled (edits : List Edit) : List Action :=
  edits.flatMap fun edit => [.edit edit, .signal]

end Action

def Operation.actions (registry : Registry) : Operation → List Action
  | .add terminal => [.edit (.store terminal), .signal]
  | .restore saved =>
    Action.signalled (saved.map fun saved => .store (saved.restored registry.preferences.defaults))
  | .remove handle => [.edit (.erase handle), .signal]
  | .close handle => if registry.contains handle then [.reap handle, .edit (.erase handle), .signal] else []
  | .terminateAll => registry.handles.map .reap ++ [.edit .clear, .signal]
  | .retitle handle title => Action.signalled (registry.rewrites handle (.title title))
  | .notify (.subprocessesChanged handle busy) =>
    Action.signalled (registry.rewrites handle (.busy busy)) ++ [.signal]
  | .notify (.workingDirectoryChanged handle directory) =>
    Action.signalled (registry.rewrites handle (.workingDirectory directory))
  | .createNew => [.edit (.issue none), .start (registry.freshRequest registry.nextSequence none), .signal]
  | .createNamed caption =>
    if caption.isEmpty then
      [.edit (.issue none), .start (registry.freshRequest registry.nextSequence none), .signal]
    else if registry.isCaptionFree caption ∧ caption ∉ registry.pending then
      [.edit (.issue (some caption)), .start (registry.freshRequest registry.nextSequence (some caption)), .signal]
    else []
  | .reconnect handle =>
    match registry.find? handle with
    | some terminal => [.start (.resume terminal registry.preferences.blinkingCursor), .signal]
    | none => []

namespace Action

variable (registry : Registry) (actions others : List Action)

lemma carryOut_append : carryOut registry (actions ++ others) =
    (carryOut registry actions).andThen (carryOut · others) := by
  induction actions generalizing registry with
  | nil => rfl
  | cons action actions ih => simp [carryOut, Step.andThen, ih]

end Action

namespace Registry

open TerminalSessions.Action

variable {registry : Registry}

lemma carryOut_reap (handles : List String) : carryOut registry (handles.map .reap) = registry.reapAll handles := by
  induction handles generalizing registry with
  | nil => rfl
  | cons handle handles ih => exact congrArg (registry.reap handle).andThen (funext fun _ => ih)

lemma set_actions (handle : String) (update : Update) :
    (registry.set handle update).map (fun _ => ()) =
      carryOut registry (signalled (registry.rewrites handle update)) := by
  rcases registry.rewrites_cases handle update with ⟨hr, hs⟩ | ⟨known, -, hr, hs⟩ <;> rw [hr, hs] <;> rfl

lemma restore_actions (registry : Registry) (saved : List SavedTerminal) :
    registry.restore saved = carryOut registry (signalled (saved.map fun saved =>
      .store (saved.restored registry.preferences.defaults))) := by
  induction saved generalizing registry with
  | nil => rfl
  | cons first others ih =>
    rw [restore, List.map_cons]
    simp only [add, announce, Step.andThen]
    rw [ih]
    rfl

lemma perform_actions (registry : Registry) (operation : Operation) :
    (registry.perform operation).map (fun _ => ()) = carryOut registry (operation.actions registry) := by
  cases operation with
  | restore saved => exact restore_actions registry saved
  | close handle =>
    simp only [perform, close, Operation.actions]
    split_ifs <;> rfl
  | terminateAll =>
    rw [Operation.actions, carryOut_append, carryOut_reap]
    rfl
  | retitle handle title => exact set_actions handle (.title title)
  | notify notification =>
    cases notification with
    | subprocessesChanged handle busy =>
      rw [Operation.actions, carryOut_append, ← set_actions]
      rfl
    | workingDirectoryChanged handle directory => exact set_actions handle (.workingDirectory directory)
  | createNamed caption =>
    simp only [perform, createNamed, Operation.actions]
    split_ifs <;> rfl
  | reconnect handle =>
    simp only [perform, reconnect, Operation.actions]
    cases registry.find? handle <;> rfl
  | add | remove | createNew => rfl

lemma perform_outside (registry : Registry) (operation : Operation) :
    (registry.perform operation).effects = (carryOut registry (operation.actions registry)).effects :=
  congrArg Step.effects (perform_actions registry operation)

end Registry

end TerminalSessions

import TerminalSessions.Registry.Step

namespace TerminalSessions

inductive Notification
  | subprocessesChanged (handle : String) (busy : Bool)
  | workingDirectoryChanged (handle : String) (directory : Option String)
  deriving DecidableEq, Repr

namespace Registry

def add (registry : Registry) (terminal : Terminal) : Step Unit :=
  (registry.store terminal).announce () []

def restore (registry : Registry) : List SavedTerminal → Step Unit
  | [] => registry.unchanged ()
  | saved :: others =>
    (registry.add (saved.restored registry.preferences.defaults)).andThen (·.restore others)

def remove (registry : Registry) (handle : String) : Step Unit :=
  (registry.erase handle).announce () []

def reap (registry : Registry) (handle : String) : Step Unit :=
  ⟨(), registry, [.reap registry handle]⟩

def reapAll (registry : Registry) : List String → Step Unit
  | [] => registry.unchanged ()
  | handle :: handles => (registry.reap handle).andThen (·.reapAll handles)

def close (registry : Registry) (handle : String) : Step Bool :=
  if registry.contains handle then
    (registry.reap handle).andThen fun registry => (registry.remove handle).map fun _ => true
  else registry.unchanged false

def terminateAll (registry : Registry) : Step Unit :=
  (registry.reapAll registry.handles).andThen fun registry =>
    { registry with terminals := [], pending := [] }.announce () []

def change (registry : Registry) (handle : String) (differs : Terminal → Bool)
    (changed : Terminal → Terminal) : Step Bool :=
  match registry.find? handle with
  | some terminal =>
    if differs terminal then (registry.add (changed terminal)).map fun _ => true
    else registry.unchanged false
  | none => registry.unchanged false

def retitle (registry : Registry) (handle title : String) : Step Bool :=
  registry.change handle (·.title ≠ title) (·.withTitle title)

def setBusy (registry : Registry) (handle : String) (busy : Bool) : Step Bool :=
  registry.change handle (·.busy ≠ busy) (·.withBusy busy)

def setWorkingDirectory (registry : Registry) (handle : String) (directory : Option String) :
    Step Bool :=
  registry.change handle (·.workingDirectory ≠ directory) (·.withWorkingDirectory directory)

def notify (registry : Registry) : Notification → Step Unit
  | .subprocessesChanged handle busy =>
    (registry.setBusy handle busy).andThen fun registry => registry.announce () []
  | .workingDirectoryChanged handle directory =>
    (registry.setWorkingDirectory handle directory).map fun _ => ()

def start {α : Type} (registry : Registry) (answer : α) (request : SessionRequest) : Step α :=
  registry.announce answer [.start request]

def freshRequest (registry : Registry) (sequence : UInt32) (caption : Option String) :
    SessionRequest :=
  .fresh sequence caption registry.preferences.defaults registry.preferences.blinkingCursor

def createNew (registry : Registry) : Step UInt32 :=
  let sequence := registry.nextSequence
  { registry with highestSequence := sequence }.start sequence (registry.freshRequest sequence none)

/-- Starts a terminal with a caption, which is then pending. A caption that is in use or pending starts
nothing; an empty one stands for the default caption. -/
def createNamed (registry : Registry) (caption : String) : Step (Option UInt32) :=
  if caption.isEmpty then registry.createNew.map some
  else if registry.isCaptionFree caption ∧ caption ∉ registry.pending then
    let sequence := registry.nextSequence
    { registry with
      highestSequence := sequence
      pending := caption :: registry.pending }.start (some sequence)
        (registry.freshRequest sequence (some caption))
  else registry.unchanged none

def reconnect (registry : Registry) (handle : String) : Step Bool :=
  match registry.find? handle with
  | some terminal =>
    registry.start true (.resume terminal registry.preferences.blinkingCursor)
  | none => registry.unchanged false

end Registry

end TerminalSessions

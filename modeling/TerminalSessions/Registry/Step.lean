import TerminalSessions.Registry.Basic

/-! What an operation on the registry answers, leaves behind and causes outside. -/

namespace TerminalSessions

/-- The busy signal tells whether any terminal runs a process; the others ask for a session to be started
and for a process to be interrupted and reaped. A reaping is kept with the registry that it found. -/
inductive Effect
  | busy (value : Bool)
  | start (request : SessionRequest)
  | reap (registry : Registry) (handle : String)
  deriving DecidableEq, Repr

namespace Effect

def busySignals (effects : List Effect) : List Bool :=
  effects.filterMap fun
    | busy value => some value
    | _ => none

def requests (effects : List Effect) : List SessionRequest :=
  effects.filterMap fun
    | start request => some request
    | _ => none

def reapings (effects : List Effect) : List (Registry × String) :=
  effects.filterMap fun
    | reap registry handle => some (registry, handle)
    | _ => none

def reaped (effects : List Effect) : List String :=
  (reapings effects).map Prod.snd

end Effect

structure Step (α : Type) where
  answer : α
  registry : Registry
  effects : List Effect := []
  deriving Repr

namespace Step

def andThen {α β : Type} (first : Step α) (next : Registry → Step β) : Step β :=
  let second := next first.registry
  { second with effects := first.effects ++ second.effects }

def map {α β : Type} (f : α → β) (step : Step α) : Step β :=
  ⟨f step.answer, step.registry, step.effects⟩

end Step

namespace Registry

def signal (registry : Registry) : Effect :=
  .busy registry.anyBusy

def announce {α : Type} (registry : Registry) (answer : α) (effects : List Effect) : Step α :=
  ⟨answer, registry, effects ++ [registry.signal]⟩

def unchanged {α : Type} (registry : Registry) (answer : α) : Step α :=
  ⟨answer, registry, []⟩

end Registry

end TerminalSessions

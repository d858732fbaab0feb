import TerminalSessions.Registry.Step

/-! The place where sessions run. It answers requests with events, which wait until they are delivered. -/

namespace TerminalSessions

inductive BackendEvent
  | started (terminal : Terminal)
  | reaped (handle : String)
  deriving DecidableEq, Repr

/-- New sessions get the handles of the supply, one after the other. Events are lost when nobody listens. -/
structure Backend where
  supply : Nat → String
  opened : Nat := 0
  listening : Bool := true
  waiting : List BackendEvent := []

namespace Backend

def send (backend : Backend) (event : BackendEvent) : Backend :=
  if backend.listening then { backend with waiting := backend.waiting ++ [event] } else backend

def start (backend : Backend) (request : SessionRequest) : Backend :=
  match request.handle with
  | some handle => backend.send (.started (request.terminal handle))
  | none =>
    { backend with opened := backend.opened + 1 }.send
      (.started (request.terminal (backend.supply backend.opened)))

def receive (backend : Backend) : Effect → Backend
  | .busy _ => backend
  | .start request => backend.start request
  | .reap _ handle => backend.send (.reaped handle)

def receiveAll (backend : Backend) (effects : List Effect) : Backend :=
  effects.foldl receive backend

def hangUp (backend : Backend) : Backend :=
  { backend with listening := false, waiting := [] }

def hexDigits (byte : UInt8) : List Char :=
  [Nat.digitChar (byte.toNat / 16), Nat.digitChar (byte.toNat % 16)]

def numberedHandle (bytes : List UInt8) (number : Nat) : String :=
  let digits := Nat.toDigits 16 number
  String.ofList (bytes.flatMap hexDigits ++ List.replicate (8 - digits.length) '0' ++ digits)

end Backend

end TerminalSessions

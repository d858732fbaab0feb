import TerminalSessions.SessionRequest

namespace TerminalSessions

structure Preferences where
  defaults : SessionDefaults := { }
  blinkingCursor : Bool := false
  deriving DecidableEq, Repr, Inhabited

/-- The highest sequence is the highest one ever seen or given out. The pending captions belong to named
sessions that were asked for and are not added yet. -/
structure Registry where
  terminals : List Terminal := []
  highestSequence : UInt32 := 0
  pending : List String := []
  preferences : Preferences := { }
  deriving DecidableEq, Repr, Inhabited

def followingSequence (sequence : UInt32) : UInt32 :=
  if sequence = 0xFFFFFFFF then sequence else sequence + 1

def putTerminal (terminal : Terminal) : List Terminal → List Terminal
  | [] => [terminal]
  | other :: others =>
    if other.handle = terminal.handle then terminal :: others
    else other :: putTerminal terminal others

namespace Registry

def empty (preferences : Preferences) : Registry :=
  { preferences }

def handles (registry : Registry) : List String :=
  registry.terminals.map (·.handle)

def find? (registry : Registry) (handle : String) : Option Terminal :=
  registry.terminals.find? (·.handle = handle)

def contains (registry : Registry) (handle : String) : Bool :=
  (registry.find? handle).isSome

def indexOf? (registry : Registry) (handle : String) : Option Nat :=
  registry.terminals.findIdx? (·.handle = handle)

def handleAt? (registry : Registry) (index : Nat) : Option String :=
  registry.terminals[index]?.map (·.handle)

def handleFor? (registry : Registry) (caption : String) : Option String :=
  (registry.terminals.find? (·.caption = caption)).map (·.handle)

def isCaptionFree (registry : Registry) (caption : String) : Bool :=
  !registry.terminals.any (·.caption = caption)

def autoClose (registry : Registry) (handle : String) : AutoClose :=
  match registry.find? handle with
  | some terminal => terminal.autoClose
  | none => .default

def caption (registry : Registry) (handle : String) : String :=
  match registry.find? handle with
  | some terminal => terminal.caption
  | none => ""

/-- An unknown terminal counts as busy, so that it is never taken for safe to close. -/
def isBusy (registry : Registry) (handle : String) : Bool :=
  match registry.find? handle with
  | some terminal => terminal.busy
  | none => true

def anyBusy (registry : Registry) : Bool :=
  registry.terminals.any (·.busy)

def nextSequence (registry : Registry) : UInt32 :=
  followingSequence
    (max registry.highestSequence
      ((registry.terminals.map (·.sequence)).foldl max 0))

def snapshot (registry : Registry) : List SavedTerminal :=
  registry.terminals.map (·.toSavedTerminal)

def store (registry : Registry) (terminal : Terminal) : Registry :=
  { registry with
    terminals := putTerminal terminal registry.terminals
    highestSequence := max registry.highestSequence terminal.sequence
    pending := registry.pending.filter (· ≠ terminal.caption) }

def erase (registry : Registry) (handle : String) : Registry :=
  { registry with terminals := registry.terminals.eraseP (·.handle = handle) }

end Registry

end TerminalSessions

import TerminalSessions.Console
import TerminalSessions.Files.Tree
import TerminalSessions.Proofs.Registry.Changes

/-! Schedules of a console: lines are typed, and in between them events of the backend are taken in, each of
them any number of lines after it was sent. -/

namespace TerminalSessions

inductive Move
  | line (times : EntryTimes) (text : String)
  | delivery
  deriving DecidableEq, Repr

def Command.operation? : Command → Option Operation
  | new caption => some (.createNamed caption)
  | retitle handle title => some (.retitle handle title)
  | close handle => some (.close handle)
  | reconnect handle => some (.reconnect handle)
  | subprocs handle active => some (.notify (.subprocessesChanged handle active))
  | cwd handle directory => some (.notify (.workingDirectoryChanged handle directory))
  | terminateAll => some .terminateAll
  | list | find _ | busy | save | quit => none

def Command.change? : Command → Option Change
  | retitle handle title => some (.set handle (.title title))
  | subprocs handle active => some (.set handle (.busy active))
  | cwd handle directory => some (.set handle (.workingDirectory directory))
  | close handle => some (.drop handle)
  | terminateAll => some .dropAll
  | new _ | list | reconnect _ | find _ | busy | save | quit => none

lemma Command.operation_changes {command : Command} {operation : Operation}
    (h : command.operation? = some operation) (defaults : SessionDefaults) :
    operation.changes defaults = command.change?.toList := by
  cases command <;> cases h <;> rfl

lemma Command.apply_operation {command : Command} {operation : Operation} (h : command.operation? = some operation)
    (registry : Registry) : (command.apply registry).registry = (registry.perform operation).registry ∧
      (command.apply registry).effects = (registry.perform operation).effects := by
  cases command with
  | retitle handle title =>
    obtain rfl := Option.some.inj h
    rw [apply]
    split_ifs with hc
    · exact ⟨rfl, rfl⟩
    · have hu : registry.retitle handle title = registry.unchanged false :=
        Registry.set_unknown (.title title) (Registry.find_eq_none.mpr (mt Registry.contains_iff.mpr hc))
      rw [Registry.perform, hu]
      exact ⟨rfl, rfl⟩
  | subprocs handle active =>
    obtain rfl := Option.some.inj h
    simp only [apply, Step.andThen, Registry.unchanged, List.append_nil]
    exact ⟨rfl, rfl⟩
  | new | close | reconnect | cwd | terminateAll =>
    obtain rfl := Option.some.inj h
    exact ⟨rfl, rfl⟩
  | list | find | busy | save | quit => cases h

lemma Command.change_of_no_operation {command : Command} (h : command.operation? = none) :
    command.change? = none := by
  cases command with
  | list | find | busy | save | quit => rfl
  | new | retitle | close | reconnect | subprocs | cwd | terminateAll => cases h

namespace Move

def command? : Move → Option Command
  | line _ text => (Command.ofLine text).toOption
  | delivery => none

def operation? (move : Move) : Option Operation :=
  move.command?.bind (·.operation?)

def change? (move : Move) : Option Change :=
  move.command?.bind (·.change?)

lemma line_of_command {move : Move} {command : Command} (h : move.command? = some command) :
    ∃ times text, move = .line times text ∧ Command.ofLine text = .ok command := by
  cases move with
  | line times text =>
    refine ⟨times, text, rfl, ?_⟩
    cases hl : Command.ofLine text with
    | error fault => simp [command?, hl, Except.toOption] at h
    | ok typed => simpa [command?, hl, Except.toOption] using h
  | delivery => cases h

lemma operation_of_line {times : EntryTimes} {text : String} {command : Command}
    (h : Command.ofLine text = .ok command) : (line times text).operation? = command.operation? := by
  simp only [operation?, command?, h]
  rfl

lemma change_of_line {times : EntryTimes} {text : String} {command : Command}
    (h : Command.ofLine text = .ok command) : (line times text).change? = command.change? := by
  simp only [change?, command?, h]
  rfl

lemma change_ne_put (move : Move) (terminal : Terminal) : move.change? ≠ some (.put terminal) := by
  intro h
  obtain ⟨command, _, hc⟩ := Option.bind_eq_some_iff.mp h
  cases command <;> cases hc

end Move

def Registry.absorb (registry : Registry) : BackendEvent → Registry
  | .started terminal => registry.store terminal
  | .reaped _ => registry

namespace Console

def move (console : Console) : Move → StateM FileTree Console
  | .line times text => return (← console.runLine times text).console
  | .delivery => return (console.deliver 1).2

def play (console : Console) : List Move → StateM FileTree Console
  | [] => return console
  | move :: moves => do (← console.move move).play moves

def carryOut (console : Console) (operation : Operation) : Console :=
  (console.follow (console.registry.perform operation)).console

def after (console : Console) : Move → Console
  | .delivery => (console.deliver 1).2
  | move =>
    match move.operation? with
    | some operation => console.carryOut operation
    | none => console

variable (console : Console) (files : FileTree)

lemma perform_console (command : Command) :
    (console.perform (m := StateM FileTree) command files).1.console =
      match command.operation? with
      | some operation => console.carryOut operation
      | none => console := by
  cases ho : command.operation? with
  | some operation =>
    have hp : (console.perform (m := StateM FileTree) command files).1.console =
        (console.follow (command.apply console.registry)).console := by
      cases command <;> rfl
    obtain ⟨hr, he⟩ := Command.apply_operation ho console.registry
    simp only [hp, follow, carryOut, hr, he]
  | none =>
    cases command with
    | list | find | busy | save | quit => rfl
    | new | retitle | close | reconnect | subprocs | cwd | terminateAll => cases ho

lemma runLine_console (times : EntryTimes) (text : String) :
    (console.runLine (m := StateM FileTree) times text files).1.console =
      console.after (.line times text) := by
  cases hc : Command.ofLine text with
  | error fault =>
    simp only [runLine, after, Move.operation?, Move.command?, hc]
    rfl
  | ok command =>
    simp only [runLine, after, Move.operation?, Move.command?, hc]
    exact perform_console console _ command

lemma move_console (move : Move) : (console.move move files).1 = console.after move := by
  cases move with
  | line times text => exact runLine_console console files times text
  | delivery => rfl

lemma play_console (moves : List Move) : (console.play moves files).1 = moves.foldl after console := by
  induction moves generalizing console files with
  | nil => rfl
  | cons move moves ih =>
    rw [List.foldl_cons, ← move_console console files move]
    exact ih _ _

lemma play_later (moves : List Move) (move : Move) (others : List Move) :
    (console.play (moves ++ move :: others) files).1 =
      others.foldl after ((console.play moves files).1.after move) := by
  rw [play_console, play_console, List.foldl_append, List.foldl_cons]

variable {console}

lemma after_operation {move : Move} {operation : Operation} (h : move.operation? = some operation) :
    console.after move = console.carryOut operation := by
  cases move with
  | line times text => simp only [after, h]
  | delivery => cases h

lemma after_no_operation {times : EntryTimes} {text : String}
    (h : (Move.line times text).operation? = none) : console.after (.line times text) = console := by
  simp only [after, h]

lemma line_terminals (times : EntryTimes) (text : String) :
    (console.after (.line times text)).registry.terminals =
      (Move.line times text).change?.toList.foldl Change.apply console.registry.terminals := by
  cases ho : (Move.line times text).operation? with
  | none =>
    have hn : (Move.line times text).change? = none := by
      cases hc : (Move.line times text).command? with
      | none => simp only [Move.change?, hc, Option.bind_none]
      | some command =>
        simp only [Move.operation?, hc, Option.bind_some] at ho
        simp only [Move.change?, hc, Option.bind_some, Command.change_of_no_operation ho]
    rw [after_no_operation ho, hn]
    rfl
  | some operation =>
    obtain ⟨command, hc, hk⟩ := Option.bind_eq_some_iff.mp ho
    rw [after_operation ho, Move.change?, hc, Option.bind_some, ← Command.operation_changes hk]
    exact Registry.perform_terminals console.registry operation

lemma after_delivery_nil (h : console.backend.waiting = []) : console.after .delivery = console := by
  simp only [after, deliver, deliver?, h]

lemma after_delivery_cons {event : BackendEvent} {events : List BackendEvent}
    (h : console.backend.waiting = event :: events) :
    console.after .delivery =
      { console with
        registry := console.registry.absorb event
        backend := { console.backend with waiting := events } } := by
  cases event <;> simp only [after, deliver, deliver?, h] <;> rfl

lemma delivery_backend (console : Console) :
    (console.after .delivery).backend.supply = console.backend.supply ∧
      (console.after .delivery).backend.opened = console.backend.opened ∧
      (console.after .delivery).backend.listening = console.backend.listening := by
  cases hw : console.backend.waiting with
  | nil =>
    rw [after_delivery_nil hw]
    exact ⟨rfl, rfl, rfl⟩
  | cons event events =>
    rw [after_delivery_cons hw]
    exact ⟨rfl, rfl, rfl⟩

lemma deliver_moves (console : Console) (count : ℕ) :
    (console.deliver count).2 = (List.replicate count Move.delivery).foldl after console := by
  induction count generalizing console with
  | zero => rfl
  | succ count ih =>
    cases hw : console.backend.waiting with
    | nil =>
      rw [List.replicate_succ, List.foldl_cons, after_delivery_nil hw, ← ih]
      cases count <;> simp only [deliver, deliver?, hw]
    | cons event events =>
      rw [List.replicate_succ, List.foldl_cons, after_delivery_cons hw, ← ih]
      cases event <;> simp only [deliver, deliver?, hw] <;> rfl

lemma deliverAll_console (console : Console) : console.deliverAll.2 =
    { console with
      registry := console.backend.waiting.foldl Registry.absorb console.registry
      backend := { console.backend with waiting := [] } } := by
  rw [deliverAll, deliver_moves]
  generalize hw : console.backend.waiting = waiting
  induction waiting generalizing console with
  | nil =>
    have hb : { console.backend with waiting := [] } = console.backend := by rw [← hw]
    rw [hb]
    rfl
  | cons event events ih =>
    rw [List.length_cons, List.replicate_succ, List.foldl_cons, after_delivery_cons hw]
    exact ih _ rfl

end Console

end TerminalSessions

import TerminalSessions.Console
import TerminalSessions.Proofs.AuditLog.Rotation
import TerminalSessions.Proofs.Registry.Openings
import TerminalSessions.Proofs.SavedTerminal.File

namespace TerminalSessions

open FileTree

lemma Command.apply_error {command : Command} {registry : Registry} {failure : Failure}
    (h : (command.apply registry).answer = .error failure) :
    command.apply registry = registry.unchanged (.error failure) := by
  -- each failing branch answers before anything else is done, with a failure of its own
  have hu : ∀ {other : Failure}, command.apply registry = registry.unchanged (.error other) →
      command.apply registry = registry.unchanged (.error failure) := fun {other} hc => by
    rw [hc] at h ⊢
    exact congrArg registry.unchanged h
  cases command with
  | new caption =>
    cases hg : registry.grant? caption with
    | none => exact hu (by rw [apply, Registry.createNamed_refused hg]; rfl)
    | some named =>
      rw [apply, Step.map, Registry.createNamed_granted hg] at h
      cases h
  | retitle handle title =>
    cases hc : registry.contains handle with
    | true =>
      rw [apply, if_pos hc] at h
      cases h
    | false => exact hu (by rw [apply, hc]; rfl)
  | close handle =>
    cases hc : registry.contains handle with
    | true =>
      rw [apply, Registry.close, hc] at h
      cases h
    | false => exact hu (by rw [apply, Registry.close, hc]; rfl)
  | reconnect handle =>
    cases hf : registry.find? handle with
    | none => exact hu (by rw [apply, Registry.reconnect, hf]; rfl)
    | some terminal =>
      rw [apply, Registry.reconnect, hf] at h
      cases h
  | save | quit => exact hu rfl
  | list | subprocs | cwd | find | busy | terminateAll => cases h

lemma SavedTerminal.save_error {path : String} {terminals : List SavedTerminal} {tree : FileTree} {failure : Failure}
    (h : (save (m := StateM FileTree) path terminals tree).1 = .error failure) :
    (save (m := StateM FileTree) path terminals tree).2 = prepared path tree := by
  rw [save_eq] at *
  split at h
  case h_1 => rfl
  case h_2 =>
    split at h
    case h_1 => rfl
    case h_2 => cases h

namespace Console

variable {console : Console} {times : EntryTimes} {line : String} {files after : FileTree} {failure : Failure}

lemma map_error {α β : Type} {f : α → β} {result : Except Failure α} (h : result.map f = .error failure) :
    result = .error failure := by
  cases result with
  | error other => exact congrArg Except.error (Except.error.inj h)
  | ok value => cases h

lemma perform_error {command : Command} {turn : Turn (Except Failure Reply)}
    (h : console.perform (m := StateM FileTree) command files = (turn, after)) (hf : turn.answer = .error failure) :
    turn.console = console ∧ turn.signals = [] ∧ (after = files ∨
      (command = .save ∨ command = .quit) ∧ after = SavedTerminal.prepared console.stateFile files) := by
  cases command with
  | save =>
    obtain ⟨rfl, rfl⟩ := Prod.mk.inj h
    exact ⟨rfl, rfl, .inr ⟨.inl rfl, SavedTerminal.save_error (map_error hf)⟩⟩
  | quit =>
    obtain ⟨rfl, rfl⟩ := Prod.mk.inj h
    exact ⟨rfl, rfl, .inr ⟨.inr rfl, SavedTerminal.save_error (map_error hf)⟩⟩
  | _ =>
    obtain ⟨rfl, rfl⟩ := Prod.mk.inj h
    dsimp only at hf ⊢
    rw [Command.apply_error (map_error hf)]
    exact ⟨rfl, rfl, .inl rfl⟩

lemma runLine_unread {fault : LineFault} (h : Command.ofLine line = .error fault) :
    console.runLine (m := StateM FileTree) times line files = (⟨.error (.line fault), console, []⟩, files) := by
  rw [runLine, h]
  rfl

lemma runLine_read {command : Command} (h : Command.ofLine line = .ok command) :
    console.runLine (m := StateM FileTree) times line files = console.perform (m := StateM FileTree) command
      (console.log.record (m := StateM FileTree) times command.verb.name command.toJson files).2 := by
  rw [runLine, h]
  rfl

/-- A line that fails leaves the registry, the backend and its events as they were and gives no signal. If it is no
command, no file is touched. Otherwise nothing changes apart from the log and the log put aside, but that a save may
have made missing directories above the state file. -/
theorem failed_line_keeps {turn : Turn (Except Failure Reply)}
    (h : console.runLine (m := StateM FileTree) times line files = (turn, after))
    (hf : turn.answer = .error failure) :
    turn.console = console ∧ turn.signals = [] ∧ (∀ fault, Command.ofLine line = .error fault → after = files) ∧
      ∀ names, console.log.Apart times.rotation files names → after.node? names = files.node? names ∨
        (Command.ofLine line = .ok .save ∨ Command.ofLine line = .ok .quit) ∧
          files.node? names = none ∧ after.node? names = some .directory ∧
            ∃ upper, Relation.TransGen Files.Holds console.stateFile upper ∧
              after.locate upper = .ok (names, .directory) := by
  cases hc : Command.ofLine line with
  | error fault =>
    rw [runLine_unread hc] at h
    obtain ⟨rfl, rfl⟩ := Prod.mk.inj h
    exact ⟨rfl, rfl, fun _ _ => rfl, fun _ _ => .inl rfl⟩
  | ok command =>
    rw [runLine_read hc] at h
    obtain ⟨hk, hs, ha⟩ := perform_error h hf
    refine ⟨hk, hs, (fun _ he => by cases he), fun names hn => ?_⟩
    have hr : (console.log.record (m := StateM FileTree) times command.verb.name command.toJson files).2.node? names =
        files.node? names := AuditLog.record_apart hn
    rw [← hr]
    rcases ha with rfl | ⟨hv, rfl⟩
    · exact .inl rfl
    · rcases (SavedTerminal.prepared_grows console.stateFile _).node names with he | hd
      · exact .inl he
      · exact .inr ⟨hv.imp (congrArg Except.ok) (congrArg Except.ok), hd⟩

theorem failed_line_keeps_save :
    let console : Console :=
      { registry := { terminals := [{ handle := "t", sequence := 1 }], pending := ["b"] }
        backend := { supply := fun _ => "u", waiting := [.reaped "s"] }
        stateFile := "made/state/"
        log := { path := "a.log", limit := 1 } }
    let files : FileTree := { entries := [(["notes"], .file "kept".toUTF8), (["a.log"], .file "old".toUTF8)] }
    ∃ turn after, console.runLine (m := StateM FileTree) default "save" files = (turn, after) ∧
      turn.answer = .error (.files .isDirectory) ∧ turn.console = console ∧
        after.node? ["notes"] = files.node? ["notes"] ∧ after.status "made" = .ok .directory := by
  intro console files
  have hf : (console.runLine (m := StateM FileTree) default "save" files).1.answer =
      .error (.files .isDirectory) := by
    decide +kernel
  have hd : (console.runLine (m := StateM FileTree) default "save" files).2.status "made" = .ok .directory := by
    decide +kernel
  have ha : console.log.Apart (default : EntryTimes).rotation files ["notes"] := by
    have hl : files.resolve "a.log" = .ok (.entry [] "a.log" false) := by decide +kernel
    have hr : files.resolve (console.log.rotatedPath (default : EntryTimes).rotation.stamp) =
        .ok (.entry [] "a_1970-01-01_00-00-00.log" false) := by
      decide +kernel
    rintro path hp place ⟨directory, name, closed, he, -, rfl⟩
    rcases List.mem_cons.mp hp with rfl | hp
    · cases hl.symm.trans he
      decide
    · obtain rfl := List.mem_singleton.mp hp
      cases hr.symm.trans he
      decide
  generalize hrun : console.runLine (m := StateM FileTree) default "save" files = result at hf hd
  obtain ⟨turn, after⟩ := result
  obtain ⟨hk, -, -, hn⟩ := failed_line_keeps hrun hf
  exact ⟨turn, after, rfl, hf, hk, (hn _ ha).resolve_right (by simp [files, node?]), hd⟩

end Console

end TerminalSessions

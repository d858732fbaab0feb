import TerminalSessions.Proofs.Console.Inheritance
import TerminalSessions.Proofs.Settings

namespace TerminalSessions

def Terminal.HasSize (columns rows : UInt16) (terminal : Terminal) : Prop :=
  terminal.columns = columns ∧ terminal.rows = rows

lemma Update.hasSize_apply {columns rows : UInt16} {terminal : Terminal} (update : Update)
    (h : terminal.HasSize columns rows) : (update.apply terminal).HasSize columns rows := by
  cases update <;> exact h

lemma Registry.mem_restore {registry : Registry} {saved : List SavedTerminal} {terminal : Terminal}
    (h : terminal ∈ (registry.restore saved).registry.terminals) : terminal ∈ registry.terminals ∨
      ∃ first ∈ saved, terminal = first.restored registry.preferences.defaults := by
  induction saved generalizing registry with
  | nil => exact .inl h
  | cons first others ih =>
    let restored := first.restored registry.preferences.defaults
    have hr : terminal ∈ ((registry.store restored).restore others).registry.terminals := h
    rcases ih hr with hm | ⟨other, hm, he⟩
    · refine (Terminals.mem_put hm).symm.imp_right fun he => ?_
      exact ⟨first, List.mem_cons_self, he⟩
    · exact .inr ⟨other, List.mem_cons_of_mem _ hm, he⟩

lemma Command.apply_no_operation {command : Command} (h : command.operation? = none) (registry : Registry) :
    (command.apply registry).effects = [] := by
  cases command with
  | list | find | busy | save | quit => rfl
  | new | retitle | close | reconnect | subprocs | cwd | terminateAll => cases h

namespace Console

def effects (console : Console) : Move → List Effect
  | .line _ text =>
    match Command.ofLine text with
    | .ok command => (command.apply console.registry).effects
    | .error _ => []
  | .delivery =>
    match console.backend.waiting with
    | .started terminal :: _ => (console.registry.add terminal).effects
    | _ => []

def allEffects (console : Console) : List Move → List Effect
  | [] => []
  | move :: moves => console.effects move ++ (console.after move).allEffects moves

variable {console : Console}

lemma requests_effects (console : Console) (move : Move) :
    Effect.requests (console.effects move) = (console.request? move).toList := by
  cases move with
  | line times text =>
    cases hl : Command.ofLine text with
    | error fault =>
      simp only [effects, request?, Move.operation?, Move.command?, hl]
      rfl
    | ok command =>
      simp only [effects, hl, request?, Move.operation_of_line hl]
      cases ho : command.operation? with
      | none =>
        rw [Command.apply_no_operation ho]
        rfl
      | some operation =>
        rw [(Command.apply_operation ho console.registry).2]
        exact console.registry.perform_requests operation
  | delivery =>
    simp only [effects]
    split <;> rfl

lemma requests_fit {fits : Terminal → Prop}
    (hi : Inherited console.registry.preferences console.backend.supply fits) (h : Everywhere fits console)
    {moves : List Move} {request : SessionRequest} (hr : request ∈ Effect.requests (console.allEffects moves)) :
    ∃ handle, fits (request.terminal handle) := by
  induction moves generalizing console with
  | nil => cases hr
  | cons move moves ih =>
    rw [allEffects, Effect.requests_append, requests_effects] at hr
    rcases List.mem_append.mp hr with hr | hr
    · exact ⟨_, h.request hi (Option.mem_toList.mp hr) 0⟩
    · refine ih ?_ (h.after hi move) hr
      exact hi.after move

lemma inherited_size (preferences : Preferences) (supply : ℕ → String) : Inherited preferences supply
    (·.HasSize preferences.defaults.columns preferences.defaults.rows) where
  opened _ _ _ _ _ := ⟨rfl, rfl⟩
  resumed _ _ h := h
  updated _ _ update _ _ h := update.hasSize_apply h

variable {preferences : Preferences} {supply : ℕ → String} {stateFile : String} {log : AuditLog}
  {saved files : FileTree}

lemma opened (hopen : Console.open? (m := StateM FileTree) preferences { supply } stateFile log saved =
      (.ok console, files)) :
    console.registry.preferences = preferences ∧ console.backend = { supply } ∧
      ∀ terminal ∈ console.registry.terminals, ∃ kept : SavedTerminal, terminal = kept.restored preferences.defaults := by
  obtain ⟨restored, rfl⟩ := open_eq hopen
  refine ⟨Registry.perform_preferences _ (.restore restored), rfl, fun terminal hm => ?_⟩
  rcases Registry.mem_restore hm with hm | ⟨kept, -, he⟩
  · cases hm
  · exact ⟨kept, he⟩

/-- A console is opened with the settings of an environment that was accepted. Whatever it restores, and whatever
is typed and delivered in whatever order, all terminals, all that are being started and all sessions that were
asked for have the size of the settings, which is not zero. -/
theorem sizes_configured {home : Option String} {lookup : Settings.Lookup} {settings : Settings}
    (hsettings : Settings.ofLookup home lookup = .ok settings)
    (hdefaults : preferences.defaults = settings.preferences.defaults)
    (hopen : Console.open? (m := StateM FileTree) preferences { supply } stateFile log saved =
      (.ok console, files))
    (moves : List Move) :
    let reached := (console.play moves files).1
    ∃ columns rows, Settings.readSize lookup "TERMINAL_COLS" 80 = .ok columns ∧
      Settings.readSize lookup "TERMINAL_ROWS" 25 = .ok rows ∧ columns ≠ 0 ∧ rows ≠ 0 ∧
      (∀ terminal ∈ reached.registry.terminals, terminal.HasSize columns rows) ∧
      (∀ terminal, .started terminal ∈ reached.backend.waiting → terminal.HasSize columns rows) ∧
      ∀ request ∈ Effect.requests (console.allEffects moves), request.columns = columns ∧ request.rows = rows := by
  intro reached
  obtain ⟨hcolumns, hrows, hc, hr⟩ := Settings.ofLookup_sizes hsettings
  rw [← hdefaults] at hcolumns hrows hc hr
  obtain ⟨rfl, hb, hrestored⟩ := opened hopen
  have hi := inherited_size console.registry.preferences console.backend.supply
  have he : Everywhere (·.HasSize console.registry.preferences.defaults.columns
      console.registry.preferences.defaults.rows) console := by
    refine ⟨fun terminal hm => ?_, fun terminal hm => ?_⟩
    · obtain ⟨kept, rfl⟩ := hrestored terminal hm
      exact ⟨rfl, rfl⟩
    · rw [hb] at hm
      cases hm
  have hreached := he.play hi moves
  rw [← play_console console files] at hreached
  refine ⟨_, _, hcolumns, hrows, hc, hr, hreached.registered, hreached.started, fun request hm => ?_⟩
  obtain ⟨handle, hf⟩ := requests_fit hi he hm
  exact hf

theorem sizes_configured_restored :
    let lookup : Settings.Lookup := fun name =>
      if name = "TERMINAL_COLS" then some "132" else if name = "TERMINAL_ROWS" then some "+43" else none
    let moves : List Move := [.line default "new b", .line default "reconnect h", .delivery, .delivery,
      .line default "new"]
    ∃ settings console files, Settings.ofLookup none lookup = .ok settings ∧
      Console.open? (m := StateM FileTree) settings.preferences { supply := Backend.numberedHandle [] }
        "terminals.json" ⟨"audit.log", 1000⟩ savedFiles = (.ok console, files) ∧
      let reached := (console.play moves files).1
      let requests := Effect.requests (console.allEffects moves)
      reached.registry.terminals.map (·.caption) = ["a", "b"] ∧
        (∀ terminal ∈ reached.registry.terminals, terminal.HasSize 132 43) ∧
        reached.backend.waiting.length = 1 ∧
        (∀ terminal, .started terminal ∈ reached.backend.waiting → terminal.HasSize 132 43) ∧
        requests.map (·.handle) = [none, some "h", none] ∧
        ∀ request ∈ requests, request.columns = 132 ∧ request.rows = 43 := by
  intro lookup moves
  let settings : Settings :=
    ⟨"info", ⟨⟨132, 43, .default, .default⟩, true⟩, "~/.terminal-list", 10 * Settings.megabyte⟩
  have hs : Settings.ofLookup none lookup = .ok settings := rfl
  have ho : Console.open? (m := StateM FileTree) settings.preferences { supply := Backend.numberedHandle [] }
      "terminals.json" ⟨"audit.log", 1000⟩ savedFiles = _ := open_restored rfl readAll_savedText
  obtain ⟨columns, rows, hcolumns, hrows, -, -, hterminals, hstarted, hrequests⟩ :=
    sizes_configured hs rfl ho moves
  obtain rfl : columns = 132 := (Except.ok.inj hcolumns).symm
  obtain rfl : rows = 43 := (Except.ok.inj hrows).symm
  refine ⟨settings, _, _, hs, ho, ?_, hterminals, ?_, hstarted, by decide, hrequests⟩
  · rw [play_console]
    decide
  · rw [play_console]
    decide

end Console

end TerminalSessions

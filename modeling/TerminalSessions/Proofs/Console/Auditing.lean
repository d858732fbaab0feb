import TerminalSessions.Proofs.AuditLog.Places
import TerminalSessions.Proofs.Console.Openings

/-! Lines are logged before they are carried out. What is in the log, whether it can be written and when it is put aside
makes no difference to anything else. -/

namespace TerminalSessions

open FileTree

variable {current : List String} {hidden : List String → Prop} {path : String}

namespace SavedTerminal

lemma matches_prepareDirectory (hc : Clear current hidden path) : Matches current hidden Eq
    (prepareDirectory (m := StateM FileTree) path) (prepareDirectory (m := StateM FileTree) path) := by
  rw [prepareDirectory]
  cases hu : Files.parent? path with
  | none => exact matches_pure rfl
  | some upper =>
    dsimp only
    split_ifs
    · exact matches_pure rfl
    · exact matches_makeDirectoriesFrom _ (hc.above hu)

lemma matches_save (hc : Clear current hidden path) (terminals : List SavedTerminal) : Matches current hidden Eq
    (save (m := StateM FileTree) path terminals) (save (m := StateM FileTree) path terminals) := by
  refine (matches_prepareDirectory hc).bind_eq fun prepared => ?_
  rcases prepared with _ | _
  · exact matches_pure rfl
  · refine Matches.bind_eq (matches_modify hc fun _ => _) fun written => ?_
    rcases written with _ | _ <;> exact matches_pure rfl

lemma matches_load (hc : Clear current hidden path) : Matches current hidden Eq
    (load (m := StateM FileTree) path) (load (m := StateM FileTree) path) := by
  refine Matches.bind_eq (Matches.bind_eq (matches_read hc) fun bytes => ?_) fun text => ?_
  · rcases bytes with _ | bytes
    · exact matches_pure rfl
    · dsimp only
      cases String.fromUTF8? bytes <;> exact matches_pure rfl
  · rcases text with fault | text
    · cases fault <;> exact matches_pure rfl
    · dsimp only
      cases readAll text <;> exact matches_pure rfl

end SavedTerminal

lemma AuditLog.matches_prepare {log : AuditLog} (limit limit' : ℕ)
    (hc : ∀ upper, Files.parent? log.path = some upper → Clear current hidden upper) :
    Matches current hidden Eq (prepare (m := StateM FileTree) { log with limit })
      (prepare (m := StateM FileTree) { log with limit := limit' }) := by
  rw [prepare, prepare]
  cases hu : Files.parent? log.path with
  | none => exact matches_pure rfl
  | some upper =>
    refine Matches.bind_eq (Matches.bind_eq (matches_status (hc upper hu)) fun _ => matches_pure rfl) fun there => ?_
    cases there with
    | true => exact matches_pure rfl
    | false =>
      exact Matches.bind_eq (matches_makeDirectoriesFrom _ (hc upper hu)) fun _ => matches_pure rfl

inductive Outcome
  | replied (answer : Except Failure Reply)
  | received (event : Option BackendEvent)
  deriving DecidableEq

structure Scene where
  outcome : Outcome
  signals : List Bool
  registry : Registry
  backend : Backend
  saved : Except FileFault ByteArray

inductive Console.Twins (stateFile : String) (log : AuditLog) : Console → Console → Prop
  | mk (registry : Registry) (backend : Backend) (limit limit' : ℕ) :
    Twins stateFile log ⟨registry, backend, stateFile, { log with limit }⟩
      ⟨registry, backend, stateFile, { log with limit := limit' }⟩

structure Turn.Twins {α : Type} (stateFile : String) (log : AuditLog) (turn other : Turn α) : Prop where
  answer : turn.answer = other.answer
  signals : turn.signals = other.signals
  console : turn.console.Twins stateFile log other.console

namespace Console

def turn (console : Console) : Move → StateM FileTree (Turn Outcome)
  | .line times text => do
    let turn ← console.runLine times text
    return { turn with answer := .replied turn.answer }
  | .delivery =>
    match console.deliver? with
    | none => return ⟨.received none, console, []⟩
    | some (event, turn) => return { turn with answer := .received event }

def scenes (console : Console) : List Move → StateM FileTree (List Scene)
  | [] => return []
  | move :: moves => do
    let turn ← console.turn move
    let saved ← FileAccess.read turn.console.stateFile
    let others ← turn.console.scenes moves
    return ⟨turn.answer, turn.signals, turn.console.registry, turn.console.backend, saved⟩ :: others

def session (settings : Settings) (limit : ℕ) (backend : Backend) (moves : List Move) :
    StateM FileTree (Except Failure (Registry × List Scene)) := do
  match ← open? settings.preferences backend settings.stateFile { settings.log with limit } with
  | .error failure => return .error failure
  | .ok console => return .ok (console.registry, ← console.scenes moves)

variable {stateFile : String} {log : AuditLog} {console other : Console}

namespace Twins

lemma follow {α : Type} (h : console.Twins stateFile log other) (command : Registry → Step α) :
    (console.follow (command console.registry)).Twins stateFile log (other.follow (command other.registry)) := by
  obtain ⟨registry, backend, limit, limit'⟩ := h
  exact ⟨rfl, rfl, .mk _ _ limit limit'⟩

lemma save (h : console.Twins stateFile log other) (hc : Clear current hidden stateFile) :
    Matches current hidden Eq (console.save (m := StateM FileTree)) (other.save (m := StateM FileTree)) := by
  obtain ⟨registry, backend, limit, limit'⟩ := h
  exact SavedTerminal.matches_save hc _

lemma perform (h : console.Twins stateFile log other) (hc : Clear current hidden stateFile) (command : Command) :
    Matches current hidden (Turn.Twins stateFile log) (console.perform (m := StateM FileTree) command)
      (other.perform (m := StateM FileTree) command) := by
  have hf := h.follow command.apply
  cases command with
  | save =>
    refine (h.save hc).bind_eq fun saved => matches_pure ⟨?_, rfl, h⟩
    obtain ⟨registry, backend, limit, limit'⟩ := h
    rfl
  | quit => exact (h.save hc).bind_eq fun saved => matches_pure ⟨rfl, rfl, h⟩
  | _ => exact matches_pure ⟨congrArg (Except.map Reply.output) hf.answer, hf.signals, hf.console⟩

lemma runLine (h : console.Twins stateFile log other) (hc : Clear current (log.Covers current) stateFile)
    (times times' : EntryTimes) (line : String) :
    Matches current (log.Covers current) (Turn.Twins stateFile log)
      (console.runLine (m := StateM FileTree) times line) (other.runLine (m := StateM FileTree) times' line) := by
  rw [Console.runLine, Console.runLine]
  cases Command.ofLine line with
  | error fault => exact matches_pure ⟨rfl, rfl, h⟩
  | ok command =>
    -- the entries change nothing but the log, so the command is carried out in trees that are alike
    have hp := h.perform hc command
    obtain ⟨registry, backend, limit, limit'⟩ := h
    exact (AuditLog.record_hides { log with limit } times _ _).bind
      (AuditLog.record_hides { log with limit := limit' } times' _ _) hp

lemma deliver (h : console.Twins stateFile log other) : console.deliver? = none ∧ other.deliver? = none ∨
    ∃ event turn turn', console.deliver? = some (event, turn) ∧ other.deliver? = some (event, turn') ∧
      turn.Twins stateFile log turn' := by
  obtain ⟨registry, backend, limit, limit'⟩ := h
  rw [deliver?, deliver?]
  dsimp only
  cases backend.waiting with
  | nil => exact .inl ⟨rfl, rfl⟩
  | cons event events =>
    refine .inr ⟨event, _, _, rfl, rfl, ?_⟩
    cases event with
    | started terminal => exact (mk registry { backend with waiting := events } limit limit').follow (·.add terminal)
    | reaped handle => exact ⟨rfl, rfl, .mk _ _ limit limit'⟩

lemma turn (h : console.Twins stateFile log other) (hc : Clear current (log.Covers current) stateFile)
    {move move' : Move} (hm : move'.text? = move.text?) :
    Matches current (log.Covers current) (Turn.Twins stateFile log) (console.turn move) (other.turn move') := by
  cases move with
  | line times text =>
    cases move' with
    | line times' text' =>
      obtain rfl : text' = text := Option.some.inj hm
      exact (h.runLine hc times times' text').bind fun _ _ ht =>
        matches_pure ⟨congrArg Outcome.replied ht.answer, ht.signals, ht.console⟩
    | delivery => cases hm
  | delivery =>
    cases move' with
    | line times' text' => cases hm
    | delivery =>
      rw [Console.turn, Console.turn]
      rcases h.deliver with ⟨hd, hd'⟩ | ⟨event, turn, turn', hd, hd', ht⟩
      · rw [hd, hd']
        exact matches_pure ⟨rfl, rfl, h⟩
      · rw [hd, hd']
        exact matches_pure ⟨rfl, ht.signals, ht.console⟩

lemma scenes (h : console.Twins stateFile log other) (hc : Clear current (log.Covers current) stateFile)
    {moves moves' : List Move} (hm : moves'.map Move.text? = moves.map Move.text?) :
    Matches current (log.Covers current) Eq (console.scenes moves) (other.scenes moves') := by
  -- on the moves: each of them leaves twins again, with trees that are alike
  induction moves generalizing console other moves' with
  | nil =>
    obtain rfl := List.map_eq_nil_iff.mp hm
    exact matches_pure rfl
  | cons move moves ih =>
    obtain ⟨move', others, rfl, hmove, hothers⟩ := List.map_eq_cons_iff.mp hm
    refine (h.turn hc hmove).bind fun ⟨answer, console, signals⟩ ⟨answer', console', signals'⟩ ht => ?_
    obtain ⟨rfl, rfl, htwins⟩ := ht
    have hs := ih htwins hothers
    obtain ⟨registry, backend, limit, limit'⟩ := htwins
    exact (matches_read hc).bind_eq fun saved => hs.bind_eq fun rest => matches_pure rfl

end Twins

lemma matches_open (preferences : Preferences) (backend : Backend) (limit limit' : ℕ)
    (hs : Clear current hidden stateFile)
    (hl : ∀ upper, Files.parent? log.path = some upper → Clear current hidden upper) :
    Matches current hidden (fun opened opened' => (∃ failure, opened = .error failure ∧ opened' = .error failure) ∨
        ∃ console console', opened = .ok console ∧ opened' = .ok console' ∧ console.Twins stateFile log console')
      (open? (m := StateM FileTree) preferences backend stateFile { log with limit })
      (open? (m := StateM FileTree) preferences backend stateFile { log with limit := limit' }) := by
  refine (SavedTerminal.matches_load hs).bind_eq fun saved => ?_
  rcases saved with failure | saved
  · exact matches_pure (.inl ⟨failure, rfl, rfl⟩)
  · exact (AuditLog.matches_prepare limit limit' hl).bind_eq fun _ =>
      matches_pure (.inr ⟨_, _, rfl, rfl, .mk _ backend limit limit'⟩)

end Console

namespace Settings

variable (settings : Settings)

def SameButForLog (files files' : FileTree) : Prop :=
  Alike files.current (settings.log.Covers files.current) files files'

def WayClear (files : FileTree) : Prop :=
  Clear files.current (settings.log.Covers files.current) settings.stateDirectory

variable {settings}

lemma sameButForLog_of_alike {files files' : FileTree} (h : Alike current (settings.log.Covers current) files files') :
    settings.SameButForLog files files' := by
  obtain rfl := h.leftCurrent
  exact h

lemma clear_above (h : Clear current (settings.log.Covers current) settings.stateDirectory) {upper : String}
    (hu : Files.parent? settings.log.path = some upper) : Clear current (settings.log.Covers current) upper := by
  refine (settings.clear_stateFile h).above ?_
  rw [← hu]
  exact Files.parent_join _ isName_stateFile isName_logFile

end Settings

namespace Console

lemma matches_session {settings : Settings}
    (h : Clear current (settings.log.Covers current) settings.stateDirectory) {moves moves' : List Move}
    (hm : moves'.map Move.text? = moves.map Move.text?) (backend : Backend) (limit limit' : ℕ) :
    Matches current (settings.log.Covers current) Eq (session settings limit backend moves)
      (session settings limit' backend moves') := by
  have hstate := settings.clear_stateFile h
  refine (matches_open settings.preferences backend limit limit' hstate fun _ hu =>
    Settings.clear_above h hu).bind fun opened opened' ho => ?_
  rcases ho with ⟨failure, rfl, rfl⟩ | ⟨console, console', rfl, rfl, htwins⟩
  · exact matches_pure rfl
  · have hregistry : console.registry = console'.registry := by
      cases htwins
      rfl
    dsimp only
    rw [hregistry]
    exact (htwins.scenes hstate hm).bind_eq fun _ => matches_pure rfl

/-- In two file systems that differ in the log at most, and with any limits, the same lines and deliveries show the
same: the answers, the signals, the registry, the backend with its events, and the state file after each move. That
holds of any console that keeps its files where the settings say, and of one that is opened. -/
theorem log_makes_no_difference {settings : Settings} {files files' : FileTree}
    (hfiles : settings.SameButForLog files files') (hway : settings.WayClear files) {moves moves' : List Move}
    (hmoves : moves'.map Move.text? = moves.map Move.text?) (backend : Backend) (limit limit' : ℕ) :
    (∀ registry,
      let shown := scenes ⟨registry, backend, settings.stateFile, { settings.log with limit }⟩ moves files
      let shown' := scenes ⟨registry, backend, settings.stateFile, { settings.log with limit := limit' }⟩ moves' files'
      shown.1 = shown'.1 ∧ settings.SameButForLog shown.2 shown'.2) ∧
    let shown := session settings limit backend moves files
    let shown' := session settings limit' backend moves' files'
    shown.1 = shown'.1 ∧ settings.SameButForLog shown.2 shown'.2 := by
  refine ⟨fun registry => ?_, ?_⟩
  · have htwins : Twins settings.stateFile settings.log _ _ := .mk registry backend limit limit'
    obtain ⟨hshown, hafter⟩ := htwins.scenes (settings.clear_stateFile hway) hmoves files files' hfiles
    exact ⟨hshown, Settings.sameButForLog_of_alike hafter⟩
  · obtain ⟨hshown, hafter⟩ := matches_session hway hmoves backend limit limit' files files' hfiles
    exact ⟨hshown, Settings.sameButForLog_of_alike hafter⟩

theorem log_makes_no_difference_unusable :
    let settings : Settings := ⟨"info", {}, "state", 1⟩
    let files : FileTree := { entries := [(["state"], .directory), (["state", "commands.log"], .file "old".toUTF8)] }
    let files' := files.put ["state", "commands.log"] .directory
    let backend : Backend := { supply := fun _ => "t" }
    let moves := [Move.line default "new a", .delivery, .line default "save"]
    let shown := session settings 1 backend moves files
    shown.1 = (session settings 1000 backend moves files').1 ∧
      shown.1.map (fun shown => shown.2.map Scene.outcome) =
        .ok [.replied (.ok (.output "starting terminal 1")),
          .received (some (.started { handle := "t", caption := "a", sequence := 1, busy := true })),
          .replied (.ok (.output "saved 1 terminal(s)"))] := by
  intro settings files files' backend moves shown
  have hfiles : settings.SameButForLog files files' :=
    alike_put rfl (by decide) ⟨settings.logFile, .inl rfl, by decide +kernel⟩ .directory
  have hway : settings.WayClear files := settings.clear_stateDirectory (by decide +kernel)
  exact ⟨(log_makes_no_difference hfiles hway rfl backend 1 1000).2.1, by decide +kernel⟩

theorem log_on_the_way_makes_a_difference :
    let settings : Settings := ⟨"info", {}, "d/commands.log/..", 10 * Settings.megabyte⟩
    let files : FileTree := { entries := [(["d"], .directory), (["d", "commands.log"], .directory)] }
    let files' := files.put ["d", "commands.log"] (.file "old".toUTF8)
    let backend : Backend := { supply := fun _ => "t" }
    let moves := [Move.line default "list", .line default "save"]
    settings.SameButForLog files files' ∧
      (session settings settings.logLimit backend moves files).1.map (fun shown => shown.2.map Scene.outcome) =
        .ok [.replied (.ok (.output "no terminals")), .replied (.ok (.output "saved 0 terminal(s)"))] ∧
      (session settings settings.logLimit backend moves files').1.map (fun shown => shown.2.map Scene.outcome) =
        .error (.files .notDirectory) := by
  intro settings files files' backend moves
  have hfiles : settings.SameButForLog files files' :=
    alike_put rfl (by decide) ⟨settings.logFile, .inl rfl, by decide +kernel⟩ _
  exact ⟨hfiles, by decide +kernel, by decide +kernel⟩

end Console

end TerminalSessions

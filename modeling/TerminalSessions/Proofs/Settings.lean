import Mathlib.Tactic.SplitIfs
import TerminalSessions.Settings.Basic

namespace TerminalSessions.Settings

lemma bind_ok {α β : Type} {first : Except Fault α} {next : α → Except Fault β} {value : β} :
    first >>= next = .ok value ↔ ∃ found, first = .ok found ∧ next found = .ok value := by
  cases first <;> simp [bind, Except.bind]

variable {home : Option String} {lookup : Lookup} {settings : Settings}

lemma ofLookup_ok : ofLookup home lookup = .ok settings ↔
    readSize lookup "TERMINAL_COLS" 80 = .ok settings.preferences.defaults.columns ∧
      readSize lookup "TERMINAL_ROWS" 25 = .ok settings.preferences.defaults.rows ∧
      (settings.preferences.defaults.columns ≠ 0 ∧ settings.preferences.defaults.rows ≠ 0) ∧
      readShell lookup = .ok settings.preferences.defaults.shell ∧
      readAutoClose lookup = .ok settings.preferences.defaults.autoClose ∧
      readTruth lookup "BLINKING_CURSOR" = .ok settings.preferences.blinkingCursor ∧
      settings.logLevel = (value? lookup "LOG_LEVEL").getD "info" ∧
      settings.stateDirectory = expandHome home ((value? lookup "TERMINAL_STATE_DIR").getD "~/.terminal-list") ∧
      settings.logLimit = readLogLimit lookup := by
  rw [ofLookup]
  constructor
  · intro h
    obtain ⟨columns, hc, h⟩ := bind_ok.mp h
    obtain ⟨rows, hr, h⟩ := bind_ok.mp h
    split_ifs at h with hz
    · cases h
    · obtain ⟨shell, hs, h⟩ := bind_ok.mp h
      obtain ⟨autoClose, ha, h⟩ := bind_ok.mp h
      obtain ⟨blinkingCursor, hb, h⟩ := bind_ok.mp h
      obtain rfl := Except.ok.inj h
      exact ⟨hc, hr, not_or.mp hz, hs, ha, hb, rfl, rfl, rfl⟩
  · rintro ⟨hc, hr, hz, hs, ha, hb, hl, hd, hm⟩
    refine bind_ok.mpr ⟨_, hc, bind_ok.mpr ⟨_, hr, ?_⟩⟩
    rw [if_neg (not_or.mpr hz)]
    refine bind_ok.mpr ⟨_, hs, bind_ok.mpr ⟨_, ha, bind_ok.mpr ⟨_, hb, ?_⟩⟩⟩
    rw [← hl, ← hd, ← hm]
    rfl

lemma ofLookup_sizes (h : ofLookup home lookup = .ok settings) :
    readSize lookup "TERMINAL_COLS" 80 = .ok settings.preferences.defaults.columns ∧
      readSize lookup "TERMINAL_ROWS" 25 = .ok settings.preferences.defaults.rows ∧
      settings.preferences.defaults.columns ≠ 0 ∧ settings.preferences.defaults.rows ≠ 0 := by
  obtain ⟨hc, hr, ⟨hcolumns, hrows⟩, -⟩ := ofLookup_ok.mp h
  exact ⟨hc, hr, hcolumns, hrows⟩

end TerminalSessions.Settings

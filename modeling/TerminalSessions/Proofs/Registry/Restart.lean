import TerminalSessions.Proofs.Registry.Refinement
import TerminalSessions.Proofs.Registry.Sequences
import TerminalSessions.Proofs.SavedTerminal.File

namespace TerminalSessions

open FileTree

lemma foldl_max_toNat (sequences : List UInt32) (start : UInt32) :
    (sequences.foldl max start).toNat = (sequences.map (·.toNat)).foldl max start.toNat := by
  induction sequences generalizing start with
  | nil => rfl
  | cons first others ih =>
    rw [List.foldl_cons, ih, UInt32.toNat_max]
    rfl

lemma following_mono {lower upper : UInt32} (h : lower ≤ upper) :
    followingSequence lower ≤ followingSequence upper := by
  rw [UInt32.le_iff_toNat_le] at *
  rw [followingSequence_toNat, followingSequence_toNat]
  omega

lemma following_largest (sequences : List UInt32) : (followingSequence (sequences.foldl max 0)).toNat =
    (sequences.map (·.toNat)).max?.elim 1 fun largest => min (largest + 1) 4294967295 := by
  rw [followingSequence_toNat, foldl_max_toNat]
  cases sequences with
  | nil => rfl
  | cons first others =>
    have hz : max (0 : UInt32).toNat first.toNat = first.toNat := Nat.zero_max _
    rw [List.map_cons, List.foldl_cons, hz, List.max?_cons']
    rfl

namespace Registry

lemma restore_unused {registry : Registry} {saved : List SavedTerminal}
    (h : (registry.handles ++ saved.map (·.handle)).Nodup) : (registry.restore saved).registry.terminals =
      registry.terminals ++ saved.map (·.restored registry.preferences.defaults) := by
  induction saved generalizing registry with
  | nil => exact (List.append_nil _).symm
  | cons first others ih =>
    let terminal := first.restored registry.preferences.defaults
    have hu : terminal.handle ∉ registry.handles := by
      have hm := (List.nodup_cons.mp (List.nodup_middle.mp h)).1
      exact fun ht => hm (List.mem_append_left _ ht)
    have ht : (registry.store terminal).terminals = registry.terminals ++ [terminal] :=
      Terminals.put_unused _ _ hu
    have hh : (registry.store terminal).handles ++ others.map (·.handle) =
        registry.handles ++ (first :: others).map (·.handle) := by
      rw [handles, ht, List.map_append, List.append_assoc]
      rfl
    have hr := ih (hh ▸ h)
    rw [ht, List.append_assoc] at hr
    exact hr

lemma restore_pending {registry : Registry} (h : registry.pending = []) (saved : List SavedTerminal) :
    (registry.restore saved).registry.pending = [] := by
  induction saved generalizing registry with
  | nil => exact h
  | cons first others ih =>
    have hs : (registry.store (first.restored registry.preferences.defaults)).pending = [] := by
      rw [store, h]
      rfl
    exact ih hs

lemma restore_highest (registry : Registry) (saved : List SavedTerminal) :
    (registry.restore saved).registry.highestSequence =
      (saved.map (·.sequence)).foldl max registry.highestSequence := by
  induction saved generalizing registry with
  | nil => rfl
  | cons first others ih => exact ih (registry.store (first.restored registry.preferences.defaults))

variable {registry : Registry} {preferences : Preferences} {path : String} {before after : FileTree}

lemma restored_terminals (h : registry.handles.Nodup) (preferences : Preferences) :
    ((empty preferences).restore registry.snapshot).registry.terminals =
      registry.terminals.map (·.withSize preferences.defaults.columns preferences.defaults.rows) := by
  have hn : ((empty preferences).handles ++ registry.snapshot.map (·.handle)).Nodup := by
    rw [snapshot, List.map_map]
    exact h
  rw [restore_unused hn, snapshot, List.map_map]
  rfl

lemma restored_snapshot (h : registry.handles.Nodup) (preferences : Preferences) :
    ((empty preferences).restore registry.snapshot).registry.snapshot = registry.snapshot := by
  rw [snapshot, restored_terminals h, List.map_map]
  rfl

lemma restored_next (h : registry.handles.Nodup) (preferences : Preferences) :
    ((empty preferences).restore registry.snapshot).registry.nextSequence =
      followingSequence ((registry.terminals.map (·.sequence)).foldl max 0) := by
  have hs : registry.snapshot.map (·.sequence) = registry.terminals.map (·.sequence) := by
    rw [snapshot, List.map_map]
    rfl
  have ht : (registry.terminals.map
      (·.withSize preferences.defaults.columns preferences.defaults.rows)).map (·.sequence) =
        registry.terminals.map (·.sequence) := by
    rw [List.map_map]
    rfl
  rw [nextSequence, restored_terminals h, restore_highest, hs, ht]
  congr 1
  rw [← UInt32.toNat_inj, UInt32.toNat_max]
  exact max_self _

theorem restart_preserves (hr : registry.Reachable) (preferences : Preferences)
    (hs : SavedTerminal.save (m := StateM FileTree) path registry.snapshot before = (.ok (), after)) :
    ∃ saved, SavedTerminal.load (m := StateM FileTree) path after = (.ok saved, after) ∧
      let restored := ((empty preferences).restore saved).registry
      restored.terminals =
          registry.terminals.map (·.withSize preferences.defaults.columns preferences.defaults.rows) ∧
        restored.pending = [] ∧
        restored.nextSequence.toNat = (registry.terminals.map (·.sequence.toNat)).max?.elim 1
          (fun largest => min (largest + 1) 4294967295) ∧
        restored.nextSequence ≤ registry.nextSequence ∧
        restored.snapshot = registry.snapshot ∧
        SavedTerminal.save (m := StateM FileTree) path restored.snapshot after = (.ok (), after) := by
  have hn := nodup_of_reachable hr
  refine ⟨registry.snapshot, SavedTerminal.load_saved hs, ?_⟩
  intro restored
  have hsnap : restored.snapshot = registry.snapshot := restored_snapshot hn preferences
  have hnext : restored.nextSequence = _ := restored_next hn preferences
  refine ⟨restored_terminals hn preferences, restore_pending rfl _, ?_, ?_, hsnap, ?_⟩
  · rw [hnext, following_largest, List.map_map]
    rfl
  · rw [hnext, nextSequence]
    refine following_mono (UInt32.le_iff_toNat_le.mpr ?_)
    rw [UInt32.toNat_max]
    exact le_max_right _ _
  · rw [hsnap]
    exact SavedTerminal.save_again hs

theorem restart_preserves_after_requests :
    let wide : Terminal := { handle := "w", sequence := 3, columns := 132, workingDirectory := some "/tmp" }
    let registry := ((empty {}).performAll
      [.restore [{ handle := "s", sequence := 7 }], .createNew, .createNamed "b", .add wide]).registry
    let preferences : Preferences := { defaults := { columns := 100, rows := 40 } }
    ∃ after saved, SavedTerminal.save (m := StateM FileTree) "state.json" registry.snapshot {} = (.ok (), after) ∧
      SavedTerminal.load (m := StateM FileTree) "state.json" after = (.ok saved, after) ∧
      let restored := ((empty preferences).restore saved).registry
      restored.terminals = [{ handle := "s", sequence := 7, columns := 100, rows := 40 },
        { handle := "w", sequence := 3, workingDirectory := some "/tmp", columns := 100, rows := 40 }] ∧
      restored.nextSequence.toNat = 8 ∧ registry.nextSequence.toNat = 10 := by
  intro wide registry preferences
  have hs : (SavedTerminal.save (m := StateM FileTree) "state.json" registry.snapshot {}).1 = .ok () := by
    decide +kernel
  generalize hf : SavedTerminal.save (m := StateM FileTree) "state.json" registry.snapshot {} = result at hs
  obtain ⟨answer, after⟩ := result
  obtain rfl : answer = .ok () := hs
  obtain ⟨saved, hl, ht, -, hn, -⟩ := restart_preserves ⟨{}, _, rfl⟩ preferences hf
  exact ⟨after, saved, rfl, hl, ht, hn, rfl⟩

end Registry

end TerminalSessions

import Mathlib.Data.List.Infix
import TerminalSessions.Proofs.Files.Tree

namespace TerminalSessions.FileTree

variable {tree after : FileTree} {source target names : List String}

lemma moved_below (rest : List String) : moved source target (source ++ rest) = target ++ rest := by
  have hp : source.isPrefixOf (source ++ rest) = true := by simp
  rw [moved, if_pos hp, List.drop_left]

lemma moved_apart (h : ¬ source <+: names) : moved source target names = names := by
  rw [moved, if_neg (by simpa using h)]

lemma lookup_moved (ht : ¬ target <+: names) (hs : ¬ source <+: names) (entries : List (List String × Node)) :
    ((entries.filter (·.1 ≠ target)).map fun (key, node) => (moved source target key, node)).lookup names =
      entries.lookup names := by
  -- keys below the source become keys below the target, and `names` is below neither
  induction entries with
  | nil => rfl
  | cons entry entries ih =>
    obtain ⟨key, node⟩ := entry
    by_cases hk : key = target
    · subst hk
      have hn : names ≠ key := fun he => ht (he ▸ List.prefix_refl _)
      rw [List.filter_cons_of_neg (by simp), ih, lookup_cons, if_neg hn]
    · rw [List.filter_cons_of_pos (by simpa using hk), List.map_cons, lookup_cons, lookup_cons, ih]
      by_cases hp : source <+: key
      · obtain ⟨rest, rfl⟩ := hp
        have hm : names ≠ target ++ rest := fun he => ht (he ▸ List.prefix_append _ _)
        have hn : names ≠ source ++ rest := fun he => hs (he ▸ List.prefix_append _ _)
        simp only [moved_below, if_neg hm, if_neg hn]
      · simp only [moved_apart hp]

lemma node_move_apart (ht : ¬ target <+: names) (hs : ¬ source <+: names) :
    (tree.move source target).node? names = tree.node? names := by
  by_cases hn : names = []
  · subst hn
    rfl
  · rw [node_entries hn, node_entries hn, move, lookup_moved ht hs]

lemma lookup_moved_target (hne : source ≠ target) (entries : List (List String × Node)) :
    ((entries.filter (·.1 ≠ target)).map fun (key, node) => (moved source target key, node)).lookup target =
      entries.lookup source := by
  induction entries with
  | nil => rfl
  | cons entry entries ih =>
    obtain ⟨key, node⟩ := entry
    by_cases hk : key = target
    · subst hk
      rw [List.filter_cons_of_neg (by simp), ih, lookup_cons, if_neg hne]
    · rw [List.filter_cons_of_pos (by simpa using hk), List.map_cons, lookup_cons, lookup_cons, ih]
      by_cases hp : source <+: key
      · obtain ⟨rest, rfl⟩ := hp
        simp [moved_below]
      · have hs : source ≠ key := fun he => hp (he ▸ List.prefix_refl _)
        simp only [moved_apart hp, if_neg (Ne.symm hk), if_neg hs]

lemma node_move_target (hne : source ≠ target) (hs : source ≠ []) (ht : target ≠ []) :
    (tree.move source target).node? target = tree.node? source := by
  rw [node_entries hs, node_entries ht, move, lookup_moved_target hne]

lemma node_move_source (ht : ¬ target <+: source) (hs : source ≠ []) :
    (tree.move source target).node? source = none := by
  rw [node_entries hs, move, List.lookup_eq_none_iff]
  intro entry hm
  obtain ⟨⟨key, node⟩, -, rfl⟩ := List.mem_map.mp hm
  by_cases hp : source <+: key
  · obtain ⟨rest, rfl⟩ := hp
    have hn : source ≠ target ++ rest := fun he => ht (he ▸ List.prefix_append _ _)
    simpa [moved_below] using hn
  · have hn : source ≠ key := fun he => hp (he ▸ List.prefix_refl _)
    simpa [moved_apart hp] using hn

def EndsAt (tree : FileTree) (path : String) (place : List String) : Prop :=
  ∃ directory name closed, tree.resolve path = .ok (.entry directory name closed) ∧
    name.utf8ByteSize ≤ nameLimit ∧ place = directory ++ [name]

variable {path sourcePath targetPath : String} {place : List String}

lemma LeadsTo.endsAt (h : tree.LeadsTo path place) : tree.EndsAt path place := by
  obtain ⟨directory, name, hr, hs, rfl⟩ := h
  exact ⟨directory, name, false, hr, hs, rfl⟩

lemma EndsAt.unique {before : FileTree} {place' : List String} (hc : after.current = before.current)
    (h : before.EndsAt path place) (h' : after.EndsAt path place') : place = place' := by
  obtain ⟨directory, name, closed, hr, -, rfl⟩ := h
  obtain ⟨directory', name', closed', hr', -, rfl⟩ := h'
  cases resolve_unique hc hr hr'
  rfl

lemma rename_ok (h : tree.rename sourcePath targetPath = .ok after) : ∃ source target node,
    tree.EndsAt sourcePath source ∧ tree.EndsAt targetPath target ∧ tree.node? source = some node ∧
      (source = target ∧ after = tree ∨ source ≠ target ∧
        tree.replaces target node (tree.node? target) = .ok () ∧ after = tree.move source target) := by
  simp only [rename] at h
  split at h
  case h_5 sourceDirectory sourceName sourceClosed targetDirectory targetName targetClosed hs ht =>
    split at h
    case h_4 node replaced hfs hft =>
      obtain ⟨hls, hns⟩ := find_ok hfs
      obtain ⟨hlt, hnt⟩ := find_ok hft
      refine ⟨_, _, node, ⟨_, _, _, hs, hls, rfl⟩, ⟨_, _, _, ht, hlt, rfl⟩, hns, ?_⟩
      split_ifs at h with hc he
      · exact .inl ⟨he, (Except.ok.inj h).symm⟩
      · split at h
        case h_1 => cases h
        case h_2 hr => exact .inr ⟨he, hnt ▸ hr, (Except.ok.inj h).symm⟩
    all_goals cases h
  all_goals cases h

lemma current_rename (h : tree.rename sourcePath targetPath = .ok after) : after.current = tree.current := by
  obtain ⟨source, target, node, -, -, -, ⟨-, rfl⟩ | ⟨-, -, rfl⟩⟩ := rename_ok h <;> rfl

end TerminalSessions.FileTree

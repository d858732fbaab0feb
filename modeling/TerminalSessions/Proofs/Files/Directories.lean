import Mathlib.Logic.Relation
import TerminalSessions.Proofs.Files.Tree

/-! Making directories: those that are there already stay as they are, and those that are made lie above the path
that is asked for. -/

namespace TerminalSessions

def Files.Holds (path upper : String) : Prop :=
  Files.parent? path = some upper

namespace FileTree

variable {tree before after : FileTree} {names place : List String} {path : String}

lemma locate_directory : tree.locate path = .ok (names, .directory) ↔ tree.resolve path = .ok (.directory names) ∨
    ∃ directory name closed, tree.resolve path = .ok (.entry directory name closed) ∧
      tree.find directory name = .ok (some .directory) ∧ names = directory ++ [name] := by
  rw [locate]
  split
  case h_1 hr => simp [hr]
  case h_2 hr => simp [hr]
  case h_3 directory name closed hr =>
    cases hf : tree.find directory name with
    | error fault => simp [hr, hf]
    | ok node =>
      cases node with
      | none => simp [hr, hf]
      | some node =>
        cases node with
        | directory => simp [hr, hf, eq_comm]
        | file content => cases closed <;> simp [hr, hf]

lemma locate_kept (h : Keeps before after) (hl : before.locate path = .ok (names, .directory)) :
    after.locate path = .ok (names, .directory) := by
  rcases locate_directory.mp hl with hr | ⟨directory, name, closed, hr, hf, rfl⟩
  · exact locate_directory.mpr (.inl (resolve_kept h hr))
  · obtain ⟨hs, hn⟩ := find_ok hf
    refine locate_directory.mpr (.inr ⟨directory, name, closed, resolve_kept h hr, ?_, rfl⟩)
    rw [find_eq hs, h.directory _ hn]

lemma makeDirectory_ok (h : tree.makeDirectory path = .ok after) : ∃ place, place ≠ [] ∧
    tree.node? place = none ∧ after = tree.put place .directory ∧ after.locate path = .ok (place, .directory) := by
  simp only [makeDirectory] at h
  split at h
  case h_1 => cases h
  case h_2 => cases h
  case h_3 directory name closed hr =>
  split at h
  case h_1 => cases h
  case h_2 => cases h
  case h_3 hf =>
    obtain ⟨hs, hn⟩ := find_ok hf
    cases h
    refine ⟨directory ++ [name], entry_ne_nil, hn, rfl, locate_directory.mpr (.inr ⟨directory, name, closed, ?_⟩)⟩
    have hk : Keeps tree (tree.put (directory ++ [name]) .directory) := keeps_put entry_ne_nil fun _ => rfl
    exact ⟨resolve_kept hk hr, by rw [find_eq hs, node_put_self entry_ne_nil], rfl⟩

structure Grows (made : String → Prop) (before after : FileTree) : Prop where
  current : after.current = before.current
  node : ∀ names, after.node? names = before.node? names ∨
    before.node? names = none ∧ after.node? names = some .directory ∧
      ∃ path, made path ∧ after.locate path = .ok (names, .directory)

variable {made : String → Prop}

lemma Grows.refl (made : String → Prop) (tree : FileTree) : Grows made tree tree :=
  ⟨rfl, fun _ => .inl rfl⟩

lemma Grows.keeps (h : Grows made before after) : Keeps before after where
  current := h.current
  directory names hd := by
    rcases h.node names with hn | ⟨hn, -⟩
    · rw [hn, hd]
    · cases hn.symm.trans hd

lemma Grows.trans {first second third : FileTree} (h : Grows made first second) (h' : Grows made second third) :
    Grows made first third where
  current := h'.current.trans h.current
  node names := by
    rcases h'.node names with hn' | ⟨hn', hd', hp'⟩
    · rcases h.node names with hn | ⟨hn, hd, path, hp, hl⟩
      · exact .inl (hn'.trans hn)
      · exact .inr ⟨hn, hn'.trans hd, path, hp, locate_kept h'.keeps hl⟩
    · rcases h.node names with hn | ⟨-, hd, -⟩
      · exact .inr ⟨hn ▸ hn', hd', hp'⟩
      · cases hd.symm.trans hn'

lemma Grows.weaken {others : String → Prop} (h : Grows made before after) (hm : ∀ path, made path → others path) :
    Grows others before after where
  current := h.current
  node names := (h.node names).imp_right fun ⟨hn, hd, path, hp, hl⟩ => ⟨hn, hd, path, hm path hp, hl⟩

lemma grows_makeDirectory (h : tree.makeDirectory path = .ok after) : Grows (· = path) tree after := by
  obtain ⟨place, hp, hn, rfl, hl⟩ := makeDirectory_ok h
  refine ⟨rfl, fun names => ?_⟩
  rw [node_put hp]
  split_ifs with he
  · exact .inr ⟨he ▸ hn, rfl, path, rfl, he ▸ hl⟩
  · exact .inl rfl

lemma bind_run {α β : Type} (first : StateM FileTree α) (next : α → StateM FileTree β) (tree : FileTree) :
    (first >>= next) tree = next (first tree).1 (first tree).2 := rfl

lemma isDirectory_eq (path : String) (tree : FileTree) :
    Files.isDirectory (m := StateM FileTree) path tree =
      (decide (tree.status path = .ok .directory), tree) := by
  have hs : FileAccess.status (m := StateM FileTree) path tree = (tree.status path, tree) := rfl
  rw [Files.isDirectory, bind_run, hs]
  cases tree.status path with
  | error fault => rfl
  | ok status => cases status <;> rfl

lemma ensureDirectory_eq (path : String) (tree : FileTree) :
    Files.ensureDirectory (m := StateM FileTree) path tree =
      match tree.makeDirectory path with
      | .ok after => (.ok (), after)
      | .error .exists => (if tree.status path = .ok .directory then .ok () else .error .exists, tree)
      | .error fault => (.error fault, tree) := by
  have hm : FileAccess.makeDirectory (m := StateM FileTree) path tree = commit (·.makeDirectory path) tree := rfl
  rw [Files.ensureDirectory, bind_run, hm, commit]
  cases tree.makeDirectory path with
  | ok after => rfl
  | error fault =>
    cases fault with
    | «exists» =>
      change (Files.isDirectory path >>= _ : StateM FileTree _) tree = _
      rw [bind_run, isDirectory_eq]
      simp only [decide_eq_true_eq]
      rfl
    | _ => rfl

lemma status_directory : tree.status path = .ok .directory ↔ ∃ names, tree.locate path = .ok (names, .directory) := by
  rw [status]
  split
  case h_1 h => simp [h]
  case h_2 h => simp [h]
  case h_3 h => simp [h]

lemma status_kept (h : Keeps before after) (hs : before.status path = .ok .directory) :
    after.status path = .ok .directory := by
  obtain ⟨names, hl⟩ := status_directory.mp hs
  exact status_directory.mpr ⟨names, locate_kept h hl⟩

lemma ensureDirectory_grows (path : String) (tree : FileTree) :
    Grows (· = path) tree (Files.ensureDirectory (m := StateM FileTree) path tree).2 := by
  rw [ensureDirectory_eq]
  split
  case h_1 after hm => exact grows_makeDirectory hm
  all_goals exact Grows.refl _ _

lemma ensureDirectory_ok (h : Files.ensureDirectory (m := StateM FileTree) path tree = (.ok (), after)) :
    after.status path = .ok .directory := by
  rw [ensureDirectory_eq] at h
  split at h
  case h_1 made hm =>
    cases h
    obtain ⟨place, -, -, -, hl⟩ := makeDirectory_ok hm
    exact status_directory.mpr ⟨place, hl⟩
  case h_2 =>
    split_ifs at h with hs
    · cases h
      exact hs
    · cases h
  case h_3 => cases h

lemma ensureDirectory_there (h : tree.status path = .ok .directory) :
    Files.ensureDirectory (m := StateM FileTree) path tree = (.ok (), tree) := by
  have hm : tree.makeDirectory path = .error .exists := by
    obtain ⟨names, hl⟩ := status_directory.mp h
    rcases locate_directory.mp hl with hr | ⟨directory, name, closed, hr, hf, -⟩
    · simp only [makeDirectory, hr]
    · simp only [makeDirectory, hr, hf]
  simp only [ensureDirectory_eq, hm, if_pos h]

lemma makeDirectoriesFrom_cases (levels : ℕ) (path : String) (tree : FileTree) :
    (path = "" ∧ Files.makeDirectoriesFrom (m := StateM FileTree) levels path tree = (.ok (), tree)) ∨
    Files.makeDirectoriesFrom (m := StateM FileTree) levels path tree =
        Files.ensureDirectory (m := StateM FileTree) path tree ∨
      ∃ fewer parent, levels = fewer + 1 ∧ Files.Holds path parent ∧
        Files.makeDirectoriesFrom (m := StateM FileTree) levels path tree =
          match Files.makeDirectoriesFrom (m := StateM FileTree) fewer parent
            (Files.ensureDirectory (m := StateM FileTree) path tree).2 with
          | (.ok (), above) => Files.ensureDirectory (m := StateM FileTree) path above
          | (.error fault, above) => (.error fault, above) := by
  rw [Files.makeDirectoriesFrom.eq_def]
  by_cases hp : path = ""
  · subst hp
    exact .inl ⟨rfl, rfl⟩
  · have he : path.isEmpty = false := by simpa using hp
    right
    simp only [he, Bool.false_eq_true, if_false]
    rw [bind_run]
    rcases Files.ensureDirectory (m := StateM FileTree) path tree with ⟨fault | ⟨⟩, above⟩
    · cases fault with
      | notFound =>
        cases levels with
        | zero => exact .inl rfl
        | succ fewer =>
          cases hh : Files.parent? path with
          | none => exact .inl rfl
          | some parent =>
            refine .inr ⟨fewer, parent, rfl, hh, ?_⟩
            change (Files.makeDirectoriesFrom fewer parent >>= _ : StateM FileTree _) above = _
            rw [bind_run]
            rcases Files.makeDirectoriesFrom (m := StateM FileTree) fewer parent above with ⟨_ | ⟨⟩, higher⟩ <;>
              rfl
      | _ => exact .inl rfl
    · exact .inl rfl

lemma makeDirectoriesFrom_grows (levels : ℕ) (path : String) (tree : FileTree) :
    Grows (Relation.ReflTransGen Files.Holds path) tree
      (Files.makeDirectoriesFrom (m := StateM FileTree) levels path tree).2 := by
  have hself : ∀ path tree, Grows (Relation.ReflTransGen Files.Holds path) tree
      (Files.ensureDirectory (m := StateM FileTree) path tree).2 := fun path tree =>
    (ensureDirectory_grows path tree).weaken fun other ho => ho ▸ .refl
  -- the directory above is made with one level fewer, and then the path itself is tried again
  induction levels using Nat.strongRecOn generalizing path tree with
  | ind levels ih =>
    rcases makeDirectoriesFrom_cases levels path tree with ⟨-, he⟩ | he | ⟨fewer, parent, rfl, hh, he⟩
    · rw [he]
      exact Grows.refl _ _
    · rw [he]
      exact hself path tree
    · have hg := (ih fewer (Nat.lt_succ_self _) parent
        (Files.ensureDirectory (m := StateM FileTree) path tree).2).weaken
          fun _ ho => Relation.ReflTransGen.head hh ho
      rw [he]
      split
      case h_1 above hm =>
        rw [hm] at hg
        exact ((hself path tree).trans hg).trans (hself path above)
      case h_2 fault above hm =>
        rw [hm] at hg
        exact (hself path tree).trans hg

lemma makeDirectories_ok
    (h : Files.makeDirectories (m := StateM FileTree) path tree = (.ok (), after)) :
    path = "" ∨ after.status path = .ok .directory := by
  rw [Files.makeDirectories] at h
  rcases makeDirectoriesFrom_cases path.length path tree with ⟨hp, -⟩ | he | ⟨fewer, parent, -, -, he⟩
  · exact .inl hp
  · exact .inr (ensureDirectory_ok (he.symm.trans h))
  · rw [he] at h
    split at h
    · exact .inr (ensureDirectory_ok h)
    · cases h

lemma makeDirectories_there (h : tree.status path = .ok .directory) :
    Files.makeDirectories (m := StateM FileTree) path tree = (.ok (), tree) := by
  have hd := ensureDirectory_there h
  rw [Files.makeDirectories, Files.makeDirectoriesFrom.eq_def]
  split_ifs
  · rfl
  · rw [bind_run, hd]
    rfl

end FileTree

end TerminalSessions

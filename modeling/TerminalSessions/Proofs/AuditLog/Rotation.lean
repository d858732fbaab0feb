import TerminalSessions.AuditLog
import TerminalSessions.Proofs.Clock
import TerminalSessions.Proofs.Files.Directories
import TerminalSessions.Proofs.Files.Renaming
import TerminalSessions.Proofs.Files.Siblings

namespace TerminalSessions.AuditLog

open Files (IsName)
open FileTree

lemma splitExtension_none {name stem : String} (h : Files.splitExtension name = (stem, none)) : stem = name := by
  simp only [Files.splitExtension] at h
  split at h
  · exact (congrArg Prod.fst h).symm
  · exact (congrArg Prod.fst h).symm
  · cases h

lemma splitExtension_some {name stem extension : String} (h : Files.splitExtension name = (stem, some extension)) :
    name = stem ++ "." ++ extension := by
  have hr := List.takeWhile_append_dropWhile (p := (· ≠ '.')) (l := name.toList.reverse)
  have hn : ∀ c before, name.toList.reverse.dropWhile (· ≠ '.') = c :: before → c = '.' := fun c before hd => by
    have hf := List.head_dropWhile_not (· ≠ '.') (l := name.toList.reverse) (by rw [hd]; exact List.cons_ne_nil _ _)
    simp only [hd, List.head_cons] at hf
    simpa using hf
  simp only [Files.splitExtension] at h
  generalize name.toList.reverse.takeWhile (· ≠ '.') = last at h hr
  split at h
  · cases h
  · cases h
  · rename_i c before _ hd
    obtain ⟨rfl, he⟩ := Prod.mk.inj h
    obtain rfl := Option.some.inj he
    rw [hd, hn c before hd] at hr
    rw [← String.toList_inj, ← List.reverse_inj, ← hr]
    simp

lemma rotatedName_eq (name : String) : ∃ stem extension, name = stem ++ extension ∧
    ∀ stamp, rotatedName name stamp = stem ++ "_" ++ stamp ++ extension := by
  rcases hs : Files.splitExtension name with ⟨stem, _ | extension⟩
  · refine ⟨name, "", by simp, fun stamp => ?_⟩
    rw [rotatedName, hs, splitExtension_none hs, String.append_empty]
  · refine ⟨stem, "." ++ extension, ?_, fun stamp => ?_⟩
    · rw [splitExtension_some hs, String.append_assoc]
    · rw [rotatedName, hs]
      simp only [String.append_assoc]

lemma rotatedName_injective (name : String) : (rotatedName name).Injective := by
  obtain ⟨stem, extension, -, hr⟩ := rotatedName_eq name
  intro stamp stamp' h
  rw [hr, hr, ← String.toList_inj] at h
  simp only [String.toList_append, List.append_cancel_left_eq, List.append_cancel_right_eq] at h
  exact String.toList_inj.mp h

lemma rotatedName_ne (name stamp : String) : rotatedName name stamp ≠ name := by
  obtain ⟨stem, extension, hn, hr⟩ := rotatedName_eq name
  intro h
  rw [hr] at h
  have hl := congrArg String.length (h.trans hn)
  simp only [String.length_append] at hl
  have hu : "_".length = 1 := rfl
  omega

lemma isName_rotatedName {name stamp : String} (hn : IsName name) (hs : '/' ∉ stamp.toList) :
    IsName (rotatedName name stamp) := by
  obtain ⟨stem, extension, rfl, hr⟩ := rotatedName_eq name
  have hu : '_' ∈ (rotatedName (stem ++ extension) stamp).toList := by simp [hr]
  have hp : '/' ∉ (stem ++ extension).toList := hn.2.2.2
  refine ⟨fun h => ?_, fun h => ?_, fun h => ?_, ?_⟩
  · simp [h] at hu
  · simp [h] at hu
  · simp [h] at hu
  · simp only [String.toList_append, List.mem_append, not_or] at hp
    simp [hr, hs, hp.1, hp.2]

variable {log : AuditLog} {time : Instant} {times : EntryTimes} {command : String} {arguments : Json.Value}
  {tree before after : FileTree} {names : List String}

def isFull (log : AuditLog) (tree : FileTree) : Bool :=
  match tree.status log.path with
  | .ok status => log.limit ≤ size status
  | .error _ => false

lemma rotateIfFull_eq (log : AuditLog) (time : Instant) (tree : FileTree) :
    log.rotateIfFull (m := StateM FileTree) time tree =
      match tree.status log.path with
      | .error .notFound => (.ok (), tree)
      | .error fault => (.error fault, tree)
      | .ok status =>
        if log.limit ≤ size status then commit (·.rename log.path (log.rotatedPath time.stamp)) tree
        else (.ok (), tree) := by
  have hs : FileAccess.status (m := StateM FileTree) log.path tree = (tree.status log.path, tree) := rfl
  rw [rotateIfFull, bind_run, hs]
  rcases tree.status log.path with fault | status
  · cases fault <;> rfl
  · dsimp only
    split_ifs <;> rfl

lemma record_eq (log : AuditLog) (times : EntryTimes) (command : String) (arguments : Json.Value) (tree : FileTree) :
    log.record (m := StateM FileTree) times command arguments tree =
      match log.rotateIfFull (m := StateM FileTree) times.rotation tree with
      | (.error fault, aside) => (.error fault, aside)
      | (.ok (), aside) => commit (·.append log.path (entry times.entry command arguments).toUTF8) aside := by
  rw [record, bind_run]
  rcases log.rotateIfFull (m := StateM FileTree) times.rotation tree with ⟨_ | _, aside⟩ <;> rfl

lemma rotateIfFull_cases (log : AuditLog) (time : Instant) (tree : FileTree) :
    (log.rotateIfFull (m := StateM FileTree) time tree).2 = tree ∨
      ∃ aside, tree.rename log.path (log.rotatedPath time.stamp) = .ok aside ∧
        log.rotateIfFull (m := StateM FileTree) time tree = (.ok (), aside) := by
  rw [rotateIfFull_eq]
  split
  case h_1 => exact .inl rfl
  case h_2 => exact .inl rfl
  case h_3 =>
    split_ifs
    · rw [commit]
      cases hr : tree.rename log.path (log.rotatedPath time.stamp) with
      | error fault => exact .inl rfl
      | ok aside => exact .inr ⟨aside, rfl, rfl⟩
    · exact .inl rfl

lemma rotateIfFull_ok {aside : FileTree} (h : log.rotateIfFull (m := StateM FileTree) time tree = (.ok (), aside)) :
    log.isFull tree = false ∧ aside = tree ∨
      log.isFull tree = true ∧ tree.rename log.path (log.rotatedPath time.stamp) = .ok aside := by
  rw [rotateIfFull_eq] at h
  rw [isFull]
  split at h
  case h_1 hs =>
    cases h
    simp [hs]
  case h_2 => cases h
  case h_3 status hs =>
    split_ifs at h with hf
    · rw [commit] at h
      split at h
      case h_1 hr =>
        cases h
        simp [hs, hf, hr]
      case h_2 => cases h
    · cases h
      simp [hs, hf]

def Apart (log : AuditLog) (time : Instant) (tree : FileTree) (names : List String) : Prop :=
  ∀ path ∈ [log.path, log.rotatedPath time.stamp], ∀ place, tree.EndsAt path place → ¬ place <+: names

lemma rotateIfFull_apart (h : log.Apart time tree names) :
    (log.rotateIfFull (m := StateM FileTree) time tree).2.node? names = tree.node? names := by
  rcases log.rotateIfFull_cases time tree with he | ⟨aside, hr, he⟩
  · rw [he]
  · rw [he]
    obtain ⟨source, target, -, hs, ht, -, ⟨-, rfl⟩ | ⟨-, -, rfl⟩⟩ := rename_ok hr
    · rfl
    · exact node_move_apart (h _ (by simp) target ht) (h _ (by simp) source hs)

lemma rotateIfFull_current (log : AuditLog) (time : Instant) (tree : FileTree) :
    (log.rotateIfFull (m := StateM FileTree) time tree).2.current = tree.current := by
  rcases log.rotateIfFull_cases time tree with he | ⟨aside, hr, he⟩
  · rw [he]
  · rw [he]
    exact current_rename hr

lemma endsAt_before {place : List String}
    (h : (log.rotateIfFull (m := StateM FileTree) time tree).2.LeadsTo log.path place) :
    tree.EndsAt log.path place := by
  rcases log.rotateIfFull_cases time tree with he | ⟨aside, hr, he⟩
  · exact (he ▸ h).endsAt
  · rw [he] at h
    obtain ⟨source, -, -, hs, -⟩ := rename_ok hr
    exact hs.unique (current_rename hr) h.endsAt ▸ hs

lemma leadsTo_before {place : List String}
    (h : (log.rotateIfFull (m := StateM FileTree) time tree).2.LeadsTo log.path place) : tree.LeadsTo log.path place := by
  obtain ⟨directory, name, closed, hr, hs, rfl⟩ := endsAt_before h
  cases resolve_unique (log.rotateIfFull_current time tree) hr h.resolve.1
  exact ⟨directory, name, hr, hs, rfl⟩

def entryBytes (times : EntryTimes) (command : String) (arguments : Json.Value) : ByteArray :=
  (entry times.entry command arguments).toUTF8

lemma record_ok (h : log.record (m := StateM FileTree) times command arguments tree = (.ok (), after)) :
    ∃ aside place, log.rotateIfFull (m := StateM FileTree) times.rotation tree = (.ok (), aside) ∧
      aside.LeadsTo log.path place ∧ aside.node? place ≠ some .directory ∧
        after = aside.put place (.file (aside.bytesAt place ++ entryBytes times command arguments)) := by
  rw [record_eq] at h
  split at h
  case h_1 => cases h
  case h_2 aside hr =>
    rw [commit] at h
    split at h
    case h_1 written ha =>
      obtain ⟨place, hl, hd, hp⟩ := modify_ok.mp ha
      exact ⟨aside, place, hr, hl, hd, (Prod.mk.inj h).2.symm.trans hp⟩
    case h_2 => cases h

lemma leadsTo_of_record (h : log.record (m := StateM FileTree) times command arguments tree = (.ok (), after)) :
    ∃ place, tree.LeadsTo log.path place := by
  obtain ⟨aside, place, ha, hl, -, -⟩ := record_ok h
  exact ⟨place, leadsTo_before (by rwa [ha])⟩

lemma record_cases (log : AuditLog) (times : EntryTimes) (command : String) (arguments : Json.Value)
    (tree : FileTree) :
    let aside := (log.rotateIfFull (m := StateM FileTree) times.rotation tree).2
    let after := (log.record (m := StateM FileTree) times command arguments tree).2
    after = aside ∨ ∃ place, aside.LeadsTo log.path place ∧
      after = aside.put place (.file (aside.bytesAt place ++ entryBytes times command arguments)) := by
  dsimp only
  rw [record_eq]
  generalize log.rotateIfFull (m := StateM FileTree) times.rotation tree = rotated
  obtain ⟨_ | _, aside⟩ := rotated
  · exact .inl rfl
  · dsimp only [commit]
    split
    case h_1 after ha =>
      obtain ⟨place, hl, -, rfl⟩ := modify_ok.mp ha
      exact .inr ⟨place, hl, rfl⟩
    case h_2 => exact .inl rfl

lemma record_apart (h : log.Apart times.rotation tree names) :
    (log.record (m := StateM FileTree) times command arguments tree).2.node? names = tree.node? names := by
  rcases log.record_cases times command arguments tree with he | ⟨place, hl, he⟩
  · rw [he, rotateIfFull_apart h]
  · have hp : names ≠ place := fun hp =>
      h _ (by simp) place (endsAt_before hl) (hp ▸ List.prefix_refl _)
    rw [he, node_put hl.ne_nil, if_neg hp, rotateIfFull_apart h]

end TerminalSessions.AuditLog

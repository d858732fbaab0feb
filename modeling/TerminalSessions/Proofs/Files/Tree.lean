import Mathlib.Data.List.Basic
import Mathlib.Logic.Basic
import TerminalSessions.Files.Tree
import TerminalSessions.Proofs.Lookup

namespace TerminalSessions.FileTree

variable {tree before after : FileTree} {names other : List String} {path : String}

lemma lookup_putEntry (names other : List String) (node : Node) (entries : List (List String × Node)) :
    (putEntry names node entries).lookup other = if other = names then some node else entries.lookup other := by
  induction entries with
  | nil => rw [putEntry, lookup_cons]
  | cons entry entries ih =>
    rw [putEntry]
    by_cases he : entry.1 = names
    · rw [if_pos he, lookup_cons, lookup_cons, he]
      split_ifs <;> rfl
    · rw [if_neg he, lookup_cons, lookup_cons, ih]
      by_cases ho : other = entry.1
      · rw [if_pos ho, if_pos ho, if_neg (ho ▸ he)]
      · rw [if_neg ho, if_neg ho]

lemma putEntry_same {node : Node} {entries : List (List String × Node)} (h : entries.lookup names = some node) :
    putEntry names node entries = entries := by
  induction entries with
  | nil => cases h
  | cons entry entries ih =>
    rw [lookup_cons] at h
    rw [putEntry]
    by_cases he : entry.1 = names
    · rw [if_pos he.symm] at h
      rw [if_pos he, ← Option.some.inj h, ← he]
    · rw [if_neg (Ne.symm he)] at h
      rw [if_neg he, ih h]

lemma node_entries (h : names ≠ []) : tree.node? names = tree.entries.lookup names := by
  rw [node?, if_neg (by simpa using h)]

lemma node_put (hn : names ≠ []) (node : Node) :
    (tree.put names node).node? other = if other = names then some node else tree.node? other := by
  by_cases ho : other = []
  · subst ho
    rw [if_neg (Ne.symm hn)]
    rfl
  · rw [node_entries ho, node_entries ho, put, lookup_putEntry]

lemma node_put_self (hn : names ≠ []) (node : Node) : (tree.put names node).node? names = some node := by
  rw [node_put hn, if_pos rfl]

lemma put_same {node : Node} (hn : names ≠ []) (h : tree.node? names = some node) :
    tree.put names node = tree := by
  rw [node_entries hn] at h
  rw [put, putEntry_same h]

lemma entry_ne_nil {directory : List String} {name : String} : directory ++ [name] ≠ [] := by
  simp

lemma find_ok {directory : List String} {name : String} {node : Option Node}
    (h : tree.find directory name = .ok node) :
    name.utf8ByteSize ≤ nameLimit ∧ tree.node? (directory ++ [name]) = node := by
  rw [find] at h
  split_ifs at h with hl
  exact ⟨Nat.le_of_not_lt hl, Except.ok.inj h⟩

lemma find_eq {directory : List String} {name : String} (h : name.utf8ByteSize ≤ nameLimit) :
    tree.find directory name = .ok (tree.node? (directory ++ [name])) := by
  rw [find, if_neg (Nat.not_lt.mpr h)]

structure Keeps (before after : FileTree) : Prop where
  current : after.current = before.current
  directory : ∀ names, before.node? names = some .directory → after.node? names = some .directory

lemma keeps_put {node : Node} (hn : names ≠ []) (h : tree.node? names = some .directory → node = .directory) :
    Keeps tree (tree.put names node) where
  current := rfl
  directory other hd := by
    rw [node_put hn]
    split_ifs with ho
    · rw [h (ho ▸ hd)]
    · exact hd

lemma keeps_put_file (hn : names ≠ []) (h : tree.node? names ≠ some .directory) (content : ByteArray) :
    Keeps tree (tree.put names (.file content)) :=
  keeps_put hn fun hd => absurd hd h

lemma descend_ok {part : String} {reached : List String} (h : tree.descend names part = .ok reached) :
    ((part = "" ∨ part = ".") ∧ reached = names) ∨ (part = ".." ∧ reached = names.dropLast) ∨
      (¬ (part = "" ∨ part = ".") ∧ part ≠ ".." ∧ reached = names ++ [part] ∧
        tree.find names part = .ok (some .directory)) := by
  rw [descend] at h
  split_ifs at h with hi hp
  · exact .inl ⟨hi, (Except.ok.inj h).symm⟩
  · exact .inr (.inl ⟨hp, (Except.ok.inj h).symm⟩)
  · split at h
    case h_4 hf => exact .inr (.inr ⟨hi, hp, (Except.ok.inj h).symm, hf⟩)
    all_goals cases h

lemma descend_kept (h : Keeps before after) {part : String} {reached : List String}
    (hd : before.descend names part = .ok reached) : after.descend names part = .ok reached := by
  rcases descend_ok hd with ⟨hi, rfl⟩ | ⟨rfl, rfl⟩ | ⟨hi, hp, rfl, hf⟩
  · rw [descend, if_pos hi]
  · rfl
  · obtain ⟨hl, hn⟩ := find_ok hf
    rw [descend, if_neg hi, if_neg hp, find_eq hl, h.directory _ hn]

lemma descend_unique {part : String} {reached reached' : List String}
    (h : before.descend names part = .ok reached) (h' : after.descend names part = .ok reached') :
    reached = reached' := by
  rcases descend_ok h with ⟨hi, rfl⟩ | ⟨rfl, rfl⟩ | ⟨hi, hp, rfl, -⟩
  · rw [descend, if_pos hi] at h'
    exact Except.ok.inj h'
  · exact Except.ok.inj h'
  · rcases descend_ok h' with ⟨hi', -⟩ | ⟨hp', -⟩ | ⟨-, -, rfl, -⟩
    · exact absurd hi' hi
    · exact absurd hp' hp
    · rfl

lemma follow_cons {closed : Bool} {part next : String} {others : List String} {target : Target} :
    tree.follow closed names (part :: next :: others) = .ok target ↔
      ∃ reached, tree.descend names part = .ok reached ∧
        tree.follow closed reached (next :: others) = .ok target := by
  simp only [follow]
  cases tree.descend names part <;> simp

lemma follow_kept (h : Keeps before after) {closed : Bool} {parts : List String} {target : Target}
    (hf : before.follow closed names parts = .ok target) : after.follow closed names parts = .ok target := by
  induction parts generalizing names with
  | nil => exact hf
  | cons part others ih =>
    cases others with
    | nil => exact hf
    | cons next others =>
      obtain ⟨reached, hd, hr⟩ := follow_cons.mp hf
      exact follow_cons.mpr ⟨reached, descend_kept h hd, ih hr⟩

lemma follow_unique {closed : Bool} {parts : List String} {target target' : Target}
    (h : before.follow closed names parts = .ok target) (h' : after.follow closed names parts = .ok target') :
    target = target' := by
  induction parts generalizing names with
  | nil => exact Except.ok.inj (h.symm.trans h')
  | cons part others ih =>
    cases others with
    | nil => exact Except.ok.inj (h.symm.trans h')
    | cons next others =>
      obtain ⟨reached, hd, hr⟩ := follow_cons.mp h
      obtain ⟨reached', hd', hr'⟩ := follow_cons.mp h'
      obtain rfl := descend_unique hd hd'
      exact ih hr hr'

def IsPath (path : String) : Prop :=
  '\x00' ∉ path.toList ∧ path.utf8ByteSize < pathLimit ∧ path ≠ ""

def namedParts (path : String) : List (List Char) :=
  ((Files.parts path.toList).reverse.dropWhile (·.isEmpty)).reverse

def isClosed (path : String) : Bool :=
  (namedParts path).length ≠ (Files.parts path.toList).length

def origin (tree : FileTree) (path : String) : List String :=
  if Files.isRooted path.toList then [] else tree.current

lemma resolve_ok {target : Target} : tree.resolve path = .ok target ↔ IsPath path ∧
    tree.follow (isClosed path) (tree.origin path) ((namedParts path).map String.ofList) = .ok target := by
  have hr : tree.resolve path = if '\x00' ∈ path.toList then .error .zeroInName
      else if pathLimit ≤ path.utf8ByteSize then .error .nameTooLong
      else if path.isEmpty then .error .notFound
      else tree.follow (isClosed path) (tree.origin path) ((namedParts path).map String.ofList) := rfl
  rw [hr, IsPath]
  split_ifs with h0 hl hp
  · simp [h0]
  · simp [Nat.not_lt.mpr hl]
  · have he : path = "" := by simpa using hp
    simp [he]
  · have he : path ≠ "" := by simpa using hp
    simp [h0, Nat.lt_of_not_le hl, he]

lemma resolve_kept (h : Keeps before after) {target : Target} (hr : before.resolve path = .ok target) :
    after.resolve path = .ok target := by
  obtain ⟨hp, hf⟩ := resolve_ok.mp hr
  rw [origin, ← h.current] at hf
  exact resolve_ok.mpr ⟨hp, follow_kept h hf⟩

lemma resolve_unique (hc : after.current = before.current) {target target' : Target}
    (h : before.resolve path = .ok target) (h' : after.resolve path = .ok target') : target = target' := by
  obtain ⟨-, hf⟩ := resolve_ok.mp h
  obtain ⟨-, hf'⟩ := resolve_ok.mp h'
  rw [origin, hc] at hf'
  exact follow_unique hf hf'

def LeadsTo (tree : FileTree) (path : String) (place : List String) : Prop :=
  ∃ directory name, tree.resolve path = .ok (.entry directory name false) ∧
    name.utf8ByteSize ≤ nameLimit ∧ place = directory ++ [name]

def bytesAt (tree : FileTree) (place : List String) : ByteArray :=
  match tree.node? place with
  | some (.file content) => content
  | _ => ByteArray.empty

variable {place place' : List String} {content : ByteArray}

lemma bytesAt_file (h : tree.node? place = some (.file content)) : tree.bytesAt place = content := by
  rw [bytesAt, h]

lemma bytesAt_missing (h : tree.node? place = none) : tree.bytesAt place = ByteArray.empty := by
  rw [bytesAt, h]

lemma bytesAt_congr (h : after.node? place = before.node? place) : after.bytesAt place = before.bytesAt place := by
  rw [bytesAt, bytesAt, h]

lemma file_of_ne_directory {node : Node} (h : tree.node? place = some node)
    (hd : tree.node? place ≠ some .directory) :
    tree.node? place = some (.file (tree.bytesAt place)) := by
  cases node with
  | file content => rw [h, bytesAt_file h]
  | directory => exact absurd h hd

lemma LeadsTo.ne_nil (h : tree.LeadsTo path place) : place ≠ [] := by
  obtain ⟨directory, name, -, -, rfl⟩ := h
  exact entry_ne_nil

lemma LeadsTo.kept (hk : Keeps before after) (h : before.LeadsTo path place) : after.LeadsTo path place := by
  obtain ⟨directory, name, hr, hl, rfl⟩ := h
  exact ⟨directory, name, resolve_kept hk hr, hl, rfl⟩

lemma LeadsTo.resolve {directory : List String} {name : String} (h : tree.LeadsTo path (directory ++ [name])) :
    tree.resolve path = .ok (.entry directory name false) ∧ name.utf8ByteSize ≤ nameLimit := by
  obtain ⟨directory', name', hr, hs, hp⟩ := h
  obtain ⟨rfl, hn⟩ := List.append_inj' hp rfl
  obtain rfl := List.singleton_inj.mp hn
  exact ⟨hr, hs⟩

lemma read_ok : tree.read path = .ok content ↔
    ∃ place, tree.LeadsTo path place ∧ tree.node? place = some (.file content) := by
  constructor
  · intro h
    simp only [read, locate] at h
    split at h
    case h_1 => cases h
    case h_3 => cases h
    case h_2 names content' hl =>
    cases h
    split at hl
    case h_1 => cases hl
    case h_2 => cases hl
    case h_3 directory name closed hr =>
    split at hl
    case h_3 content' hf =>
      cases closed with
      | true => simp at hl
      | false =>
        obtain ⟨hs, hn⟩ := find_ok hf
        cases hl
        exact ⟨_, ⟨directory, name, hr, hs, rfl⟩, hn⟩
    all_goals cases hl
  · rintro ⟨place, ⟨directory, name, hr, hs, rfl⟩, hn⟩
    simp [read, locate, hr, find_eq hs, hn]

lemma locate_leadsTo (h : tree.LeadsTo path place) : tree.locate path =
    match tree.node? place with
    | none => .error .notFound
    | some node => .ok (place, node) := by
  obtain ⟨directory, name, hr, hs, rfl⟩ := h
  rw [locate, hr]
  dsimp only
  rw [find_eq hs]
  rcases tree.node? (directory ++ [name]) with _ | _ | _ <;> rfl

lemma read_leadsTo (h : tree.LeadsTo path place) : tree.read path =
    match tree.node? place with
    | none => .error .notFound
    | some (.file content) => .ok content
    | some .directory => .error .isDirectory := by
  rw [read, locate_leadsTo h]
  rcases tree.node? place with _ | _ | _ <;> rfl

lemma status_leadsTo (h : tree.LeadsTo path place) : tree.status path =
    match tree.node? place with
    | none => .error .notFound
    | some (.file content) => .ok (.file content.size)
    | some .directory => .ok .directory := by
  rw [status, locate_leadsTo h]
  rcases tree.node? place with _ | _ | _ <;> rfl

lemma modify_ok {change : ByteArray → ByteArray} : tree.modify path change = .ok after ↔
    ∃ place, tree.LeadsTo path place ∧ tree.node? place ≠ some .directory ∧
      after = tree.put place (.file (change (tree.bytesAt place))) := by
  constructor
  · intro h
    simp only [modify] at h
    split at h
    case h_1 => cases h
    case h_2 => cases h
    case h_3 directory name closed hr =>
    cases closed with
    | true => simp at h
    | false =>
      simp only [Bool.false_eq_true, if_false] at h
      split at h
      case h_1 => cases h
      case h_2 => cases h
      all_goals
        rename_i hf
        obtain ⟨hs, hn⟩ := find_ok hf
        cases h
        refine ⟨_, ⟨directory, name, hr, hs, rfl⟩, by rw [hn]; simp, ?_⟩
        simp only [bytesAt, hn]
  · rintro ⟨place, ⟨directory, name, hr, hs, rfl⟩, hd, rfl⟩
    simp only [modify, hr, Bool.false_eq_true, if_false, find_eq hs, bytesAt]
    cases hn : tree.node? (directory ++ [name]) with
    | none => rfl
    | some node =>
      cases node with
      | file content => rfl
      | directory => exact absurd hn hd

end TerminalSessions.FileTree

import Mathlib.Data.List.TakeWhile
import TerminalSessions.Proofs.Files.Directories
import TerminalSessions.Proofs.Files.Renaming
import TerminalSessions.Proofs.Files.Siblings

/-! Trees that differ at hidden places only. A path whose way leads through none of them leads to the same place in
both trees, and actions on such paths have the same outcome. -/

namespace TerminalSessions

namespace FileTree

def heading (names : List String) (part : String) : List String :=
  if part = "" ∨ part = "." then names
  else if part = ".." then names.dropLast
  else names ++ [part]

def Avoids (hidden : List String → Prop) : List String → List String → Prop
  | _, [] => True
  | names, part :: others =>
    (part ∉ ["", ".", ".."] → ¬ hidden (names ++ [part])) ∧ Avoids hidden (heading names part) others

def start (current : List String) (path : String) : List String :=
  if Files.isRooted path.toList then [] else current

def placeOf (current : List String) (path : String) : List String :=
  ((Files.parts path.toList).map String.ofList).foldl heading (start current path)

def Clear (current : List String) (hidden : List String → Prop) (path : String) : Prop :=
  Avoids hidden (start current path) ((Files.parts path.toList).map String.ofList)

structure Alike (current : List String) (hidden : List String → Prop) (left right : FileTree) : Prop where
  leftCurrent : left.current = current
  rightCurrent : right.current = current
  node : ∀ names, ¬ hidden names → right.node? names = left.node? names

variable {current names directory : List String} {hidden : List String → Prop} {tree left right : FileTree}
  {path name : String}

lemma Alike.symm (h : Alike current hidden left right) : Alike current hidden right left :=
  ⟨h.rightCurrent, h.leftCurrent, fun names hn => (h.node names hn).symm⟩

lemma Alike.trans {other : FileTree} (h : Alike current hidden left right) (h' : Alike current hidden right other) :
    Alike current hidden left other :=
  ⟨h.leftCurrent, h'.rightCurrent, fun names hn => (h'.node names hn).trans (h.node names hn)⟩

lemma Alike.put (h : Alike current hidden left right) (hn : names ≠ []) (node : Node) :
    Alike current hidden (left.put names node) (right.put names node) where
  leftCurrent := h.leftCurrent
  rightCurrent := h.rightCurrent
  node other ho := by
    rw [node_put hn, node_put hn, h.node other ho]

lemma alike_put (hc : tree.current = current) (hn : names ≠ []) (hh : hidden names) (node : Node) :
    Alike current hidden tree (tree.put names node) where
  leftCurrent := hc
  rightCurrent := hc
  node other ho := by
    have hne : other ≠ names := fun he => ho (he ▸ hh)
    rw [node_put hn, if_neg hne]

lemma avoids_append (first second : List String) : Avoids hidden names (first ++ second) ↔
    Avoids hidden names first ∧ Avoids hidden (first.foldl heading names) second := by
  induction first generalizing names with
  | nil => simp [Avoids]
  | cons part others ih => simp only [List.cons_append, Avoids, List.foldl_cons, ih, and_assoc]

lemma heading_name (h : Files.IsName name) (names : List String) : heading names name = names ++ [name] := by
  rw [heading, if_neg (not_or.mpr ⟨h.1, h.2.1⟩), if_neg h.2.2.1]

lemma foldl_heading_void {idle : List (List Char)} (h : ∀ part ∈ idle, Files.IsVoid part) (names : List String) :
    (idle.map String.ofList).foldl heading names = names := by
  induction idle with
  | nil => rfl
  | cons part others ih =>
    have hp : heading names (String.ofList part) = names := by
      rcases h part List.mem_cons_self with rfl | rfl <;> rfl
    rw [List.map_cons, List.foldl_cons, hp, ih fun other hm => h other (List.mem_cons_of_mem _ hm)]

lemma avoids_void {idle : List (List Char)} (h : ∀ part ∈ idle, Files.IsVoid part) (names : List String) :
    Avoids hidden names (idle.map String.ofList) := by
  induction idle generalizing names with
  | nil => trivial
  | cons part others ih =>
    refine ⟨fun hn => absurd ?_ hn, ih (fun other hm => h other (List.mem_cons_of_mem _ hm)) _⟩
    rcases h part List.mem_cons_self with rfl | rfl
    · exact List.mem_cons_self
    · exact List.mem_cons_of_mem _ List.mem_cons_self

lemma namedParts_append (path : String) :
    ∃ idle, Files.parts path.toList = namedParts path ++ idle ∧ ∀ part ∈ idle, Files.IsVoid part := by
  refine ⟨((Files.parts path.toList).reverse.takeWhile (·.isEmpty)).reverse, ?_, fun part hm => .inl ?_⟩
  · rw [namedParts, ← List.reverse_append, List.takeWhile_append_dropWhile, List.reverse_reverse]
  · exact List.isEmpty_iff.mp (List.mem_takeWhile_imp (List.mem_reverse.mp hm))

lemma descend_heading {part : String} {reached : List String} (h : tree.descend names part = .ok reached) :
    reached = heading names part := by
  rcases descend_ok h with ⟨hi, rfl⟩ | ⟨rfl, rfl⟩ | ⟨hi, hp, rfl, -⟩
  · rw [heading, if_pos hi]
  · rfl
  · rw [heading, if_neg hi, if_neg hp]

lemma follow_entry {closed closed' : Bool} {parts : List String}
    (h : tree.follow closed names parts = .ok (.entry directory name closed')) :
    directory ++ [name] = parts.foldl heading names ∧
      ∀ hidden, Avoids hidden names parts → ¬ hidden (directory ++ [name]) := by
  induction parts generalizing names with
  | nil => cases h
  | cons part others ih =>
    cases others with
    | nil =>
      simp only [follow] at h
      split_ifs at h with hi hp
      · cases h
      · cases h
      · cases h
        refine ⟨?_, fun hidden ha => ha.1 ?_⟩
        · rw [List.foldl_cons, heading, if_neg hi, if_neg hp]
          rfl
        · simpa [hp] using hi
    | cons next others =>
      obtain ⟨reached, hd, hr⟩ := follow_cons.mp h
      obtain rfl := descend_heading hd
      obtain ⟨hplace, hclear⟩ := ih hr
      exact ⟨hplace, fun hidden ha => hclear hidden ha.2⟩

lemma entry_place {closed : Bool} (hc : tree.current = current)
    (h : tree.resolve path = .ok (.entry directory name closed)) : directory ++ [name] = placeOf current path := by
  obtain ⟨-, hf⟩ := resolve_ok.mp h
  obtain ⟨idle, hp, hv⟩ := namedParts_append path
  rw [origin, hc] at hf
  rw [placeOf, hp, List.map_append, List.foldl_append, foldl_heading_void hv]
  exact (follow_entry hf).1

lemma EndsAt.place {place : List String} (hc : tree.current = current) (h : tree.EndsAt path place) :
    place = placeOf current path := by
  obtain ⟨directory, name, closed, hr, -, rfl⟩ := h
  exact entry_place hc hr

lemma Clear.named (h : Clear current hidden path) :
    Avoids hidden (start current path) ((namedParts path).map String.ofList) := by
  obtain ⟨idle, hp, -⟩ := namedParts_append path
  rw [Clear, hp, List.map_append] at h
  exact ((avoids_append _ _).mp h).1

lemma Clear.entry {closed : Bool} (h : Clear current hidden path) (hc : tree.current = current)
    (hr : tree.resolve path = .ok (.entry directory name closed)) : ¬ hidden (directory ++ [name]) := by
  obtain ⟨-, hf⟩ := resolve_ok.mp hr
  rw [origin, hc] at hf
  exact (follow_entry hf).2 hidden h.named

lemma Clear.above {upper : String} (h : Clear current hidden path) (hu : Files.parent? path = some upper) :
    Clear current hidden upper := by
  rcases Files.parts_parent hu with hv | ⟨⟨rest, hp⟩, hr⟩
  · exact avoids_void hv _
  · rw [Clear, hp, List.map_append, avoids_append] at h
    rw [Clear, start, hr]
    exact h.1

namespace Alike

variable (h : Alike current hidden left right)

include h

lemma find (hn : ¬ hidden (directory ++ [name])) : right.find directory name = left.find directory name := by
  rw [FileTree.find, FileTree.find, h.node _ hn]

lemma descend {part : String} (hp : part ∉ ["", ".", ".."] → ¬ hidden (names ++ [part])) :
    right.descend names part = left.descend names part := by
  rw [FileTree.descend, FileTree.descend]
  split_ifs with hi hu
  · rfl
  · rfl
  · rw [h.find (hp (by simpa [hu] using hi))]

lemma follow {closed : Bool} {parts : List String} (ha : Avoids hidden names parts) :
    right.follow closed names parts = left.follow closed names parts := by
  induction parts generalizing names with
  | nil => rfl
  | cons part others ih =>
    cases others with
    | nil => rfl
    | cons next others =>
      simp only [FileTree.follow, h.descend ha.1]
      cases hd : left.descend names part with
      | error fault => rfl
      | ok reached =>
        obtain rfl := descend_heading hd
        exact ih ha.2

lemma resolve (hc : Clear current hidden path) : right.resolve path = left.resolve path := by
  have hr : ∀ tree : FileTree, tree.current = current → tree.resolve path =
      if '\x00' ∈ path.toList then .error .zeroInName
      else if pathLimit ≤ path.utf8ByteSize then .error .nameTooLong
      else if path.isEmpty then .error .notFound
      else tree.follow (isClosed path) (start current path) ((namedParts path).map String.ofList) := by
    rintro tree rfl
    rfl
  rw [hr left h.leftCurrent, hr right h.rightCurrent, h.follow hc.named]

lemma locate (hc : Clear current hidden path) : right.locate path = left.locate path := by
  rw [FileTree.locate, FileTree.locate, h.resolve hc]
  cases hr : left.resolve path with
  | error fault => rfl
  | ok target =>
    cases target with
    | directory names => rfl
    | entry directory name closed =>
      dsimp only
      rw [h.find (hc.entry h.leftCurrent hr)]

lemma status (hc : Clear current hidden path) : right.status path = left.status path := by
  rw [FileTree.status, FileTree.status, h.locate hc]

lemma read (hc : Clear current hidden path) : right.read path = left.read path := by
  rw [FileTree.read, FileTree.read, h.locate hc]

end Alike

section Actions

variable {α β γ δ : Type}

def Matches (current : List String) (hidden : List String → Prop) (related : α → β → Prop)
    (first : StateM FileTree α) (second : StateM FileTree β) : Prop :=
  ∀ left right, Alike current hidden left right →
    related (first left).1 (second right).1 ∧ Alike current hidden (first left).2 (second right).2

def Hides (current : List String) (hidden : List String → Prop) (action : StateM FileTree α) : Prop :=
  ∀ tree, tree.current = current → Alike current hidden tree (action tree).2

variable {related : α → β → Prop} {related' : γ → δ → Prop} {first : StateM FileTree α}
  {second : StateM FileTree β} {next : α → StateM FileTree γ} {next' : β → StateM FileTree δ}

lemma matches_pure {a : α} {b : β} (h : related a b) :
    Matches current hidden related (pure a : StateM FileTree α) (pure b : StateM FileTree β) :=
  fun _ _ ha => ⟨h, ha⟩

lemma Matches.bind (h : Matches current hidden related first second)
    (hn : ∀ a b, related a b → Matches current hidden related' (next a) (next' b)) :
    Matches current hidden related' (first >>= next) (second >>= next') := by
  intro left right ha
  obtain ⟨hr, hfiles⟩ := h left right ha
  exact hn _ _ hr _ _ hfiles

lemma Matches.bind_eq {second : StateM FileTree α} {next' : α → StateM FileTree δ}
    (h : Matches current hidden Eq first second) (hn : ∀ a, Matches current hidden related' (next a) (next' a)) :
    Matches current hidden related' (first >>= next) (second >>= next') :=
  h.bind fun a _ he => he ▸ hn a

lemma Hides.bind {last : StateM FileTree γ} {last' : StateM FileTree δ} (h : Hides current hidden first)
    (h' : Hides current hidden second) (hl : Matches current hidden related' last last') :
    Matches current hidden related' (first >>= fun _ => last) (second >>= fun _ => last') :=
  fun left right ha => hl _ _ (((h left ha.leftCurrent).symm.trans ha).trans (h' right ha.rightCurrent))

lemma matches_read (hc : Clear current hidden path) : Matches current hidden Eq
    (FileAccess.read (m := StateM FileTree) path) (FileAccess.read (m := StateM FileTree) path) :=
  fun _ _ ha => ⟨(ha.read hc).symm, ha⟩

lemma matches_status (hc : Clear current hidden path) : Matches current hidden Eq
    (FileAccess.status (m := StateM FileTree) path) (FileAccess.status (m := StateM FileTree) path) :=
  fun _ _ ha => ⟨(ha.status hc).symm, ha⟩

lemma matches_modify (hc : Clear current hidden path) (change : ByteArray → ByteArray) :
    Matches current hidden Eq (commit (·.modify path change)) (commit (·.modify path change)) := by
  intro left right ha
  simp only [commit, modify, ha.resolve hc]
  cases hr : left.resolve path with
  | error fault => exact ⟨rfl, ha⟩
  | ok target =>
    cases target with
    | directory names => exact ⟨rfl, ha⟩
    | entry directory name closed =>
      dsimp only
      rw [ha.find (hc.entry ha.leftCurrent hr)]
      cases closed with
      | true => exact ⟨rfl, ha⟩
      | false =>
        rcases left.find directory name with fault | _ | content | _
        · exact ⟨rfl, ha⟩
        · exact ⟨rfl, ha.put entry_ne_nil _⟩
        · exact ⟨rfl, ha.put entry_ne_nil _⟩
        · exact ⟨rfl, ha⟩

lemma matches_makeDirectory (hc : Clear current hidden path) : Matches current hidden Eq
    (FileAccess.makeDirectory (m := StateM FileTree) path) (FileAccess.makeDirectory (m := StateM FileTree) path) := by
  intro left right ha
  simp only [FileAccess.makeDirectory, commit, makeDirectory, ha.resolve hc]
  cases hr : left.resolve path with
  | error fault => exact ⟨rfl, ha⟩
  | ok target =>
    cases target with
    | directory names => exact ⟨rfl, ha⟩
    | entry directory name closed =>
      dsimp only
      rw [ha.find (hc.entry ha.leftCurrent hr)]
      rcases left.find directory name with fault | _ | node
      · exact ⟨rfl, ha⟩
      · exact ⟨rfl, ha.put entry_ne_nil _⟩
      · exact ⟨rfl, ha⟩

lemma matches_isDirectory (hc : Clear current hidden path) : Matches current hidden Eq
    (Files.isDirectory (m := StateM FileTree) path) (Files.isDirectory (m := StateM FileTree) path) := by
  refine (matches_status hc).bind_eq fun status => ?_
  rcases status with _ | _ | _ <;> exact matches_pure rfl

lemma matches_ensureDirectory (hc : Clear current hidden path) : Matches current hidden Eq
    (Files.ensureDirectory (m := StateM FileTree) path) (Files.ensureDirectory (m := StateM FileTree) path) := by
  refine (matches_makeDirectory hc).bind_eq fun result => ?_
  rcases result with fault | _
  · cases fault with
    | «exists» => exact (matches_isDirectory hc).bind_eq fun _ => matches_pure rfl
    | _ => exact matches_pure rfl
  · exact matches_pure rfl

lemma matches_makeDirectoriesFrom (levels : ℕ) (hc : Clear current hidden path) : Matches current hidden Eq
    (Files.makeDirectoriesFrom (m := StateM FileTree) levels path)
    (Files.makeDirectoriesFrom (m := StateM FileTree) levels path) := by
  -- the way to a directory above is a part of the way to the path
  induction levels using Nat.strongRecOn generalizing path with
  | ind levels ih =>
    rw [Files.makeDirectoriesFrom.eq_def]
    split_ifs
    · exact matches_pure rfl
    · refine (matches_ensureDirectory hc).bind_eq fun result => ?_
      rcases result with fault | _
      · cases fault with
        | notFound =>
          cases levels with
          | zero => exact matches_pure rfl
          | succ fewer =>
            dsimp only
            cases hu : Files.parent? path with
            | none => exact matches_pure rfl
            | some upper =>
              refine (ih fewer (Nat.lt_succ_self _) (hc.above hu)).bind_eq fun made => ?_
              rcases made with _ | _
              · exact matches_pure rfl
              · exact matches_ensureDirectory hc
        | _ => exact matches_pure rfl
      · exact matches_pure rfl

end Actions

end FileTree

end TerminalSessions

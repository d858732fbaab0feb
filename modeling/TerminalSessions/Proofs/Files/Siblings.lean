import Mathlib.Data.List.Basic
import TerminalSessions.Proofs.Files.Tree

namespace TerminalSessions

namespace Files

lemma slash_not_mem {part path : List Char} (h : part ∈ parts path) : '/' ∉ part := by
  induction path generalizing part with
  | nil =>
    obtain rfl : part = [] := by simpa [parts] using h
    exact List.not_mem_nil
  | cons c cs ih =>
    rw [parts, List.splitOn, List.splitOnP_cons_eq_if_modifyHead] at h
    obtain ⟨first, others, hs⟩ := List.exists_cons_of_ne_nil (List.splitOnP_ne_nil (· == '/') cs)
    have hp : parts cs = first :: others := hs
    rw [hs] at h
    split_ifs at h with hc
    · rcases List.mem_cons.mp h with rfl | hm
      · exact List.not_mem_nil
      · exact ih (hp ▸ hm)
    · rcases List.mem_cons.mp h with rfl | hm
      · have hf := ih (hp ▸ List.mem_cons_self)
        have hn : c ≠ '/' := by simpa using hc
        simp [hf, hn.symm]
      · exact ih (hp ▸ List.mem_cons_of_mem _ hm)

lemma isRooted_iff {path : List Char} : isRooted path = true ↔ path ≠ [] ∧ (parts path).head? = some [] := by
  cases path with
  | nil => simp [isRooted]
  | cons c cs =>
    rw [parts, List.splitOn, List.splitOnP_cons_eq_if_modifyHead]
    obtain ⟨first, others, hs⟩ := List.exists_cons_of_ne_nil (List.splitOnP_ne_nil (· == '/') cs)
    by_cases hc : c = '/' <;> simp [isRooted, hs, hc]

def IsVoid (part : List Char) : Prop :=
  part = [] ∨ part = ['.']

def directoryParts (before : List (List Char)) : List (List Char) :=
  (dropIdle before.reverse).reverse

lemma dropIdle_suffix (parts : List (List Char)) :
    ∃ idle, parts = idle ++ dropIdle parts ∧ ∀ part ∈ idle, IsVoid part := by
  induction parts with
  | nil => exact ⟨[], rfl, by simp⟩
  | cons part before ih =>
    rw [dropIdle]
    split_ifs with hi
    · obtain ⟨idle, hs, hv⟩ := ih
      refine ⟨part :: idle, congrArg (part :: ·) hs, fun other hm => ?_⟩
      rcases List.mem_cons.mp hm with rfl | hm
      · have hp : other = [] ∨ before.isEmpty = false ∧ other = ['.'] := by simpa [isIdle] using hi
        exact hp.imp_right (·.2)
      · exact hv other hm
    · exact ⟨[], rfl, by simp⟩

lemma directoryParts_append (before : List (List Char)) :
    ∃ idle, before = directoryParts before ++ idle ∧ ∀ part ∈ idle, IsVoid part := by
  obtain ⟨idle, hs, hv⟩ := dropIdle_suffix before.reverse
  refine ⟨idle.reverse, ?_, by simpa using hv⟩
  rw [directoryParts, ← List.reverse_append, ← hs, List.reverse_reverse]

lemma dropIdle_head {part : List Char} {parts before : List (List Char)} (h : dropIdle parts = part :: before) :
    part ≠ [] := by
  induction parts with
  | nil => cases h
  | cons other others ih =>
    rw [dropIdle] at h
    split_ifs at h with hi
    · exact ih h
    · obtain ⟨rfl, -⟩ := List.cons.inj h
      rintro rfl
      exact hi rfl

def IsName (name : String) : Prop :=
  name ≠ "" ∧ name ≠ "." ∧ name ≠ ".." ∧ '/' ∉ name.toList

lemma joinParts_snoc {before : List (List Char)} (h : before ≠ []) (part : List Char) :
    joinParts (before ++ [part]) = joinParts before ++ '/' :: part := by
  induction before with
  | nil => exact absurd rfl h
  | cons first others ih =>
    cases others with
    | nil => simp [joinParts, List.intercalate_cons_of_ne_nil]
    | cons next others =>
      have hj : ∀ others : List (List Char), others ≠ [] → joinParts (first :: others) =
          first ++ ['/'] ++ joinParts others := fun _ => List.intercalate_cons_of_ne_nil
      rw [List.cons_append, hj _ (by simp), ih (List.cons_ne_nil _ _), hj _ (List.cons_ne_nil _ _),
        List.append_assoc]
      simp

variable {path name : String} {before : List (List Char)}

lemma split_of_parts (hn : IsName name) (hp : parts path.toList = before ++ [name.toList]) :
    split? path.toList = some (if (joinParts (directoryParts before)).isEmpty && isRooted path.toList then ['/']
      else joinParts (directoryParts before), name.toList) := by
  have he : name.toList ≠ [] := by simpa using hn.1
  have hd : name.toList ≠ ['.'] := fun h => hn.2.1 (String.toList_inj.mp h)
  have hi : isIdle before.reverse.isEmpty name.toList = false := by simp [isIdle, he, hd]
  simp only [split?, hp, List.reverse_append, List.reverse_singleton, List.singleton_append, dropIdle, hi,
    Bool.false_eq_true, if_false]
  rfl

lemma fileName_of_parts (hn : IsName name) (hp : parts path.toList = before ++ [name.toList]) :
    fileName? path = some name := by
  have hd : name.toList ≠ ['.'] := fun h => hn.2.1 (String.toList_inj.mp h)
  have hu : name.toList ≠ ['.', '.'] := fun h => hn.2.2.1 (String.toList_inj.mp h)
  simp [fileName?, split_of_parts hn hp, hd, hu]

lemma joinParts_last {last : List Char} (h : last ≠ []) :
    (joinParts (before ++ [last])).getLast? = last.getLast? := by
  have hl : ∀ parts : List Char, (parts ++ last).getLast? = last.getLast? := fun parts => by
    rw [List.getLast?_append_of_ne_nil _ h]
  by_cases hb : before = []
  · subst hb
    simp [joinParts]
  · rw [joinParts_snoc hb, ← List.singleton_append, ← List.append_assoc]
    exact hl _

lemma join_name {directory : List Char} (hd : directory ≠ []) (hl : directory.getLast? ≠ some '/')
    (hn : IsName name) : (join (String.ofList directory) name).toList = directory ++ '/' :: name.toList := by
  have hs : name.toList.head? ≠ some '/' := fun h => hn.2.2.2 (List.mem_of_head? h)
  simp [join, hs, hd, hl]

lemma directoryParts_snoc {kept : List (List Char)} {last : List Char} (h : directoryParts before = kept ++ [last]) :
    last ≠ [] := by
  have hd : dropIdle before.reverse = last :: kept.reverse := by
    rw [← List.reverse_reverse (dropIdle _), ← directoryParts, h]
    simp
  exact dropIdle_head hd

lemma directoryParts_subset {part : List Char} (h : part ∈ directoryParts before) : part ∈ before := by
  obtain ⟨idle, hb, -⟩ := directoryParts_append before
  rw [hb]
  exact List.mem_append_left _ h

lemma joinParts_directory (hs : ∀ part ∈ before, '/' ∉ part) (hk : directoryParts before ≠ []) :
    joinParts (directoryParts before) ≠ [] ∧ (joinParts (directoryParts before)).getLast? ≠ some '/' ∧
      parts (joinParts (directoryParts before)) = directoryParts before := by
  obtain ⟨kept, last, he⟩ := (List.eq_nil_or_concat' (directoryParts before)).resolve_left hk
  have hl := directoryParts_snoc he
  have hm : last ∈ directoryParts before := by simp [he]
  have hg : (joinParts (directoryParts before)).getLast? = last.getLast? := by
    rw [he, joinParts_last hl]
  refine ⟨fun h => ?_, fun h => ?_, ?_⟩
  · rw [h] at hg
    exact hl (List.getLast?_eq_none_iff.mp hg.symm)
  · exact hs _ (directoryParts_subset hm) (List.mem_of_getLast? (hg ▸ h))
  · exact List.splitOn_intercalate '/' (fun part hm => hs _ (directoryParts_subset hm)) hk

lemma withFileName_of_parts (hn : IsName name) (hp : parts path.toList = before ++ [name.toList]) (other : String) :
    withFileName path other = join (String.ofList
      (if (joinParts (directoryParts before)).isEmpty && isRooted path.toList then ['/']
        else joinParts (directoryParts before))) other := by
  simp [withFileName, fileName_of_parts hn hp, parent?, split_of_parts hn hp]

variable {other : String}

lemma withFileName_alone (hn : IsName name) (ho : IsName other)
    (hp : parts path.toList = before ++ [name.toList]) (hk : directoryParts before = []) :
    (withFileName path other).toList = if isRooted path.toList then '/' :: other.toList else other.toList := by
  have hj : joinParts (directoryParts before) = [] := by
    rw [hk]
    rfl
  have hh : other.toList.head? ≠ some '/' := fun h => ho.2.2.2 (List.mem_of_head? h)
  by_cases hr : isRooted path.toList = true <;> simp [withFileName_of_parts hn hp, hj, hr, join, hh]

lemma withFileName_inside (hn : IsName name) (ho : IsName other)
    (hp : parts path.toList = before ++ [name.toList]) (hk : directoryParts before ≠ []) :
    (withFileName path other).toList = joinParts (directoryParts before) ++ '/' :: other.toList ∧
      parts (withFileName path other).toList = directoryParts before ++ [other.toList] := by
  have hs : ∀ part ∈ before, '/' ∉ part := fun part hm =>
    slash_not_mem (hp ▸ List.mem_append_left _ hm)
  obtain ⟨hj, hc, hd⟩ := joinParts_directory hs hk
  have ht : (withFileName path other).toList = joinParts (directoryParts before) ++ '/' :: other.toList := by
    rw [withFileName_of_parts hn hp, ← join_name hj hc ho]
    simp [hj]
  refine ⟨ht, ?_⟩
  rw [ht]
  exact (List.splitOn_append_cons_self _ _).trans
    (congrArg₂ _ hd (List.splitOn_eq_singleton ho.2.2.2))

lemma parts_withFileName (hn : IsName name) (ho : IsName other)
    (hp : parts path.toList = before ++ [name.toList]) :
    ∃ kept idle idle', before = kept ++ idle ∧ (∀ part ∈ idle, IsVoid part) ∧ (∀ part ∈ idle', IsVoid part) ∧
      parts (withFileName path other).toList = kept ++ idle' ++ [other.toList] ∧
      isRooted (withFileName path other).toList = isRooted path.toList := by
  obtain ⟨idle, hb, hv⟩ := directoryParts_append before
  have hs : parts other.toList = [other.toList] := List.splitOn_eq_singleton ho.2.2.2
  refine ⟨directoryParts before, idle, ?_⟩
  by_cases hk : directoryParts before = []
  · have ht := withFileName_alone hn ho hp hk
    by_cases hr : isRooted path.toList = true
    · rw [if_pos hr] at ht
      refine ⟨[[]], hb, hv, by simp [IsVoid], ?_, by rw [ht, hr]; rfl⟩
      rw [ht, hk]
      exact (List.splitOn_append_cons_self [] _).trans (congrArg _ hs)
    · rw [if_neg hr] at ht
      refine ⟨[], hb, hv, by simp, by rw [ht, hk, hs]; rfl, ?_⟩
      have hh : other.toList.head? ≠ some '/' := fun h => ho.2.2.2 (List.mem_of_head? h)
      rw [ht, Bool.eq_false_iff.mpr hr]
      simpa [isRooted] using hh
  · obtain ⟨ht, hq⟩ := withFileName_inside hn ho hp hk
    refine ⟨[], hb, hv, by simp, by rw [hq, List.append_nil], ?_⟩
    have hne : path.toList ≠ [] := fun h => by
      rw [h] at hp
      have hr := congrArg List.getLast? hp
      simp only [List.getLast?_append, List.getLast?_singleton, Option.some_or] at hr
      exact hn.1 (String.toList_inj.mp (Option.some.inj hr).symm)
    obtain ⟨first, others, hf⟩ := List.exists_cons_of_ne_nil hk
    have hh : (before ++ [name.toList]).head? = some first := by
      rw [hb, hf]
      rfl
    rw [Bool.eq_iff_iff, isRooted_iff, isRooted_iff, hq, hp, hh, hf]
    simp [ht, hne]

lemma isRooted_upper {path upper : List Char} {rest : List (List Char)} (hp : parts path = parts upper ++ rest)
    (hu : upper ≠ []) (hr : rest ≠ []) : isRooted upper = isRooted path := by
  have hne : parts upper ≠ [] := List.splitOnP_ne_nil _ _
  have hpath : path ≠ [] := by
    rintro rfl
    have hl := congrArg List.length hp
    have hone : (parts []).length = 1 := rfl
    have hupper := List.length_pos_iff.mpr hne
    have hrest := List.length_pos_iff.mpr hr
    rw [hone, List.length_append] at hl
    omega
  rw [Bool.eq_iff_iff, isRooted_iff, isRooted_iff, hp, List.head?_append_of_ne_nil _ hne]
  simp [hu, hpath]

lemma split_cases {parent part : List Char} {path : List Char} (h : split? path = some (parent, part)) :
    ∃ before rest, parts path = directoryParts before ++ rest ∧ rest ≠ [] ∧ (∀ other ∈ before, '/' ∉ other) ∧
      parent = if (joinParts (directoryParts before)).isEmpty && isRooted path then ['/']
        else joinParts (directoryParts before) := by
  rw [split?] at h
  cases hd : dropIdle (parts path).reverse with
  | nil => simp [hd] at h
  | cons last before =>
    rw [hd] at h
    obtain ⟨idle, hs, -⟩ := dropIdle_suffix (parts path).reverse
    have hp : parts path = before.reverse ++ (last :: idle.reverse) := by
      rw [hd, List.reverse_eq_iff] at hs
      simpa using hs
    obtain ⟨idle', hs', -⟩ := directoryParts_append before.reverse
    refine ⟨before.reverse, idle' ++ last :: idle.reverse, ?_, by simp, fun other hm => ?_, ?_⟩
    · rw [hp, ← List.append_assoc, ← hs']
    · have hmem : other ∈ parts path := hp ▸ List.mem_append_left _ hm
      exact slash_not_mem hmem
    · rw [directoryParts, List.reverse_reverse]
      exact (congrArg Prod.fst (Option.some.inj h)).symm

lemma parts_parent {path upper : String} (h : parent? path = some upper) :
    (∀ part ∈ parts upper.toList, IsVoid part) ∨
      (∃ rest, parts path.toList = parts upper.toList ++ rest) ∧ isRooted upper.toList = isRooted path.toList := by
  rw [parent?, Option.map_eq_some_iff] at h
  obtain ⟨⟨parent, part⟩, hsplit, rfl⟩ := h
  obtain ⟨before, rest, hp, hrest, hslash, hparent⟩ := split_cases hsplit
  simp only [String.toList_ofList]
  by_cases hk : directoryParts before = []
  · left
    have hroot : parts ['/'] = [[], []] := rfl
    have hempty : parts [] = [[]] := rfl
    have hj : joinParts (directoryParts before) = [] := by
      rw [hk]
      rfl
    rw [hparent, hj]
    split_ifs <;> simp [hroot, hempty, IsVoid]
  · right
    obtain ⟨hne, -, hparts⟩ := joinParts_directory hslash hk
    rw [if_neg (by simp [hne])] at hparent
    rw [← hparts, ← hparent] at hp
    exact ⟨⟨rest, hp⟩, isRooted_upper hp (hparent ▸ hne) hrest⟩

end Files

namespace FileTree

variable {tree : FileTree} {path name : String} {directory : List String}

def walk (tree : FileTree) (names : List String) (parts : List (List Char)) : Except FileFault (List String) :=
  (parts.map String.ofList).foldlM tree.descend names

lemma walk_append (names : List String) (first second : List (List Char)) :
    tree.walk names (first ++ second) = tree.walk names first >>= (tree.walk · second) := by
  rw [walk, List.map_append, List.foldlM_append]
  rfl

lemma walk_void {idle : List (List Char)} (h : ∀ part ∈ idle, Files.IsVoid part) (names : List String) :
    tree.walk names idle = .ok names := by
  induction idle generalizing names with
  | nil => rfl
  | cons part others ih =>
    have hd : tree.descend names (String.ofList part) = .ok names := by
      rcases h part List.mem_cons_self with rfl | rfl <;> rfl
    have hw := ih (fun other hm => h other (List.mem_cons_of_mem _ hm)) names
    rw [walk] at *
    rw [List.map_cons, List.foldlM_cons, hd]
    exact hw

lemma follow_snoc {closed : Bool} {target : Target} (names : List String) (before : List (List Char))
    (last : String) : tree.follow closed names (before.map String.ofList ++ [last]) = .ok target ↔
      ∃ reached, tree.walk names before = .ok reached ∧ tree.follow closed reached [last] = .ok target := by
  induction before generalizing names with
  | nil => simp [walk, pure, Except.pure]
  | cons part others ih =>
    obtain ⟨next, rest, hr⟩ := List.exists_cons_of_ne_nil (show others.map String.ofList ++ [last] ≠ [] by simp)
    rw [List.map_cons, List.cons_append, hr, follow_cons]
    simp only [← hr, ih, walk, List.map_cons, List.foldlM_cons]
    cases tree.descend names (String.ofList part) with
    | error fault => simp [bind, Except.bind]
    | ok reached => simp [bind, Except.bind]

lemma follow_name (closed : Bool) (names : List String) (h : Files.IsName name) :
    tree.follow closed names [name] = .ok (.entry names name closed) := by
  simp [follow, h.1, h.2.1, h.2.2.1]

lemma resolve_entry : tree.resolve path = .ok (.entry directory name false) ↔ IsPath path ∧ Files.IsName name ∧
    ∃ before, Files.parts path.toList = before ++ [name.toList] ∧
      tree.walk (tree.origin path) before = .ok directory := by
  rw [resolve_ok]
  refine and_congr_right fun _ => ⟨fun h => ?_, ?_⟩
  · rcases List.eq_nil_or_concat' (namedParts path) with hn | ⟨before, part, hn⟩
    · rw [hn] at h
      cases h
    · rw [hn, List.map_append, List.map_singleton, follow_snoc] at h
      obtain ⟨reached, hw, hf⟩ := h
      simp only [follow] at hf
      split_ifs at hf with hi hu
      · cases hf
      · cases hf
      · simp only [Except.ok.injEq, Target.entry.injEq] at hf
        obtain ⟨rfl, rfl, hc⟩ := hf
        have hs : ((Files.parts path.toList).reverse.dropWhile (·.isEmpty)).length =
            (Files.parts path.toList).reverse.length := by
          simpa [isClosed, namedParts] using hc
        have hp : Files.parts path.toList = before ++ [part] := by
          rw [← hn, namedParts, (List.dropWhile_suffix _).eq_of_length hs, List.reverse_reverse]
        rw [String.toList_ofList]
        have hm : part ∈ Files.parts path.toList := by simp [hp]
        refine ⟨⟨fun h => hi (.inl h), fun h => hi (.inr h), hu, ?_⟩, before, hp, hw⟩
        rw [String.toList_ofList]
        exact Files.slash_not_mem hm
  · rintro ⟨hn, before, hp, hw⟩
    have he : name.toList.isEmpty = false := by simpa using hn.1
    have hnamed : namedParts path = Files.parts path.toList := by
      simp [namedParts, hp, he]
    have hc : isClosed path = false := by simp [isClosed, hnamed]
    rw [hnamed, hp, List.map_append, List.map_singleton, String.ofList_toList, follow_snoc]
    exact ⟨directory, hw, by rw [hc, follow_name false directory hn]⟩

lemma resolve_sibling {other : String} (h : tree.resolve path = .ok (.entry directory name false))
    (ho : Files.IsName other) (hp : IsPath (Files.withFileName path other)) :
    tree.resolve (Files.withFileName path other) = .ok (.entry directory other false) := by
  obtain ⟨-, hn, before, hs, hw⟩ := resolve_entry.mp h
  obtain ⟨kept, idle, idle', rfl, hv, hv', hs', hr⟩ := Files.parts_withFileName hn ho hs
  refine resolve_entry.mpr ⟨hp, ho, kept ++ idle', hs', ?_⟩
  -- the idle parts lead nowhere, so the kept ones alone reach the directory
  have hk : tree.walk (tree.origin path) kept = .ok directory := by
    rw [walk_append] at hw
    cases hk : tree.walk (tree.origin path) kept with
    | error fault =>
      rw [hk] at hw
      cases hw
    | ok reached =>
      rw [hk] at hw
      exact (walk_void hv reached).symm.trans hw
  rw [origin, hr, ← origin, walk_append, hk]
  exact walk_void hv' directory

lemma fileName_entry (h : tree.resolve path = .ok (.entry directory name false)) :
    Files.fileName? path = some name := by
  obtain ⟨-, hn, before, hs, -⟩ := resolve_entry.mp h
  exact Files.fileName_of_parts hn hs

end FileTree

end TerminalSessions

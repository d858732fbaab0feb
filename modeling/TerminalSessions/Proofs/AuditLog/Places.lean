import TerminalSessions.Proofs.AuditLog.Entries
import TerminalSessions.Proofs.Files.Alike
import TerminalSessions.Settings.Basic

/-! The places of a log and of the logs put aside. Entries change nothing elsewhere, and with the files of the settings
the terminals are saved elsewhere. -/

namespace TerminalSessions

open FileTree
open Files (IsName)

variable {current names : List String} {path name other : String} {before : List (List Char)}

namespace Files

lemma parts_join (directory : String) : ∃ before rooted, (∀ name, IsName name →
    parts (join directory name).toList = before ++ [name.toList] ∧ isRooted (join directory name).toList = rooted) ∧
      ((∃ idle, parts directory.toList = before ++ idle ∧ ∀ part ∈ idle, IsVoid part) ∧
        isRooted directory.toList = rooted ∨ before = [] ∧ directory = "") := by
  have hs : ∀ name, IsName name → name.toList.head? ≠ some '/' := fun name hn h => hn.2.2.2 (List.mem_of_head? h)
  have halone : ∀ name, IsName name → parts name.toList = [name.toList] := fun name hn =>
    List.splitOn_eq_singleton hn.2.2.2
  by_cases hd : directory = ""
  · subst hd
    refine ⟨[], false, fun name hn => ?_, .inr ⟨rfl, rfl⟩⟩
    have hj : join "" name = name := by simp [join]
    rw [hj, halone name hn]
    exact ⟨rfl, by simpa [isRooted] using hs name hn⟩
  · have hroot : ∀ rest : List Char, isRooted (directory.toList ++ rest) = isRooted directory.toList := fun rest => by
      rw [isRooted, isRooted, List.head?_append_of_ne_nil _ (by simpa using hd)]
    by_cases hl : directory.toList.getLast? = some '/'
    · obtain ⟨upper, hu⟩ : ∃ upper, directory.toList = upper ++ ['/'] :=
        ⟨_, (List.dropLast_append_getLast? _ hl).symm⟩
      refine ⟨parts upper, isRooted directory.toList, fun name hn => ?_, .inl ⟨⟨[[]], ?_, ?_⟩, rfl⟩⟩
      · have hj : (join directory name).toList = directory.toList ++ name.toList := by
          simp [join, hs name hn, hd, hl]
        rw [hj, hroot]
        refine ⟨?_, rfl⟩
        rw [hu, List.append_assoc, ← halone name hn]
        exact List.splitOn_append_cons_self _ _
      · rw [hu]
        exact List.splitOn_append_cons_self _ _
      · simp [IsVoid]
    · refine ⟨parts directory.toList, isRooted directory.toList, fun name hn => ?_,
        .inl ⟨⟨[], (List.append_nil _).symm, by simp⟩, rfl⟩⟩
      have hj : (join directory name).toList = directory.toList ++ '/' :: name.toList := by
        simp [join, hs name hn, hd, hl]
      rw [hj, hroot, ← halone name hn]
      exact ⟨List.splitOn_append_cons_self _ _, rfl⟩

lemma parent_of_parts (hn : IsName name) (hp : parts path.toList = before ++ [name.toList]) :
    parent? path = some (String.ofList
      (if (joinParts (directoryParts before)).isEmpty && isRooted path.toList then ['/']
        else joinParts (directoryParts before))) := by
  rw [parent?, split_of_parts hn hp, Option.map_some]

lemma parent_join (directory : String) (hn : IsName name) (ho : IsName other) :
    parent? (join directory name) = parent? (join directory other) := by
  obtain ⟨before, rooted, hj, -⟩ := parts_join directory
  rw [parent_of_parts hn (hj name hn).1, parent_of_parts ho (hj other ho).1, (hj name hn).2, (hj other ho).2]

end Files

namespace FileTree

def placeAbove (current : List String) (path : String) (before : List (List Char)) : List String :=
  (before.map String.ofList).foldl heading (start current path)

lemma placeOf_parts (hn : IsName name) (hp : Files.parts path.toList = before ++ [name.toList]) :
    placeOf current path = placeAbove current path before ++ [name] := by
  rw [placeOf, hp, List.map_append, List.foldl_append, placeAbove]
  simp [heading_name hn]

lemma placeOf_withFileName (hn : IsName name) (ho : IsName other)
    (hp : Files.parts path.toList = before ++ [name.toList]) :
    placeOf current (Files.withFileName path other) = placeAbove current path before ++ [other] := by
  obtain ⟨kept, idle, idle', rfl, hv, hv', hs, hr⟩ := Files.parts_withFileName hn ho hp
  have hstart : start current (Files.withFileName path other) = start current path := by
    rw [start, start, hr]
  rw [placeOf_parts ho hs]
  simp only [placeAbove, hstart, List.map_append, List.foldl_append, foldl_heading_void hv, foldl_heading_void hv']

lemma length_foldl_heading {parts : List String} (h : ".." ∉ parts) (names : List String) :
    names.length ≤ (parts.foldl heading names).length := by
  induction parts generalizing names with
  | nil => exact le_rfl
  | cons part others ih =>
    obtain ⟨hp, ho⟩ := not_or.mp (mt List.mem_cons.mpr h)
    refine le_trans ?_ (ih ho _)
    rw [heading, if_neg (Ne.symm hp)]
    split_ifs <;> simp

lemma avoids_deeper {hidden : List String → Prop} {parts : List String} (h : ".." ∉ parts)
    (hd : ∀ place, hidden place → (parts.foldl heading names).length < place.length) : Avoids hidden names parts := by
  induction parts generalizing names with
  | nil => trivial
  | cons part others ih =>
    obtain ⟨hp, ho⟩ := not_or.mp (mt List.mem_cons.mpr h)
    refine ⟨fun hn hh => ?_, ih ho hd⟩
    have hl := length_foldl_heading ho (heading names part)
    have hlt := hd _ hh
    have he : heading names part = names ++ [part] := by
      rw [heading, if_neg (fun hi => hn (by simpa using hi.imp_right .inl)), if_neg (Ne.symm hp)]
    rw [List.foldl_cons, he] at hlt
    rw [he] at hl
    omega

lemma clear_parts {hidden : List String → Prop} (hp : Files.parts path.toList = before ++ [name.toList])
    (hb : Avoids hidden (start current path) (before.map String.ofList))
    (hn : ¬ hidden (placeAbove current path before ++ [name])) : Clear current hidden path := by
  rw [Clear, hp, List.map_append, avoids_append]
  refine ⟨hb, fun _ => ?_, trivial⟩
  rwa [String.ofList_toList]

end FileTree

namespace AuditLog

variable {log : AuditLog}

def Covers (log : AuditLog) (current names : List String) : Prop :=
  ∃ path, (path = log.path ∨ ∃ time : Instant, path = log.rotatedPath time.stamp) ∧ placeOf current path <+: names

lemma record_hides (log : AuditLog) (times : EntryTimes) (command : String) (arguments : Json.Value) :
    Hides current (log.Covers current) (log.record (m := StateM FileTree) times command arguments) := by
  intro tree hc
  have hcurrent : (log.record (m := StateM FileTree) times command arguments tree).2.current = tree.current := by
    rw [← log.rotateIfFull_current times.rotation tree]
    rcases log.record_cases times command arguments tree with he | ⟨place, -, he⟩ <;> rw [he]
    rfl
  refine ⟨hc, hcurrent.trans hc, fun names hn => record_apart fun path hp place hl hprefix => hn ⟨path, ?_, ?_⟩⟩
  · rcases List.mem_cons.mp hp with rfl | hp
    · exact .inl rfl
    · exact .inr ⟨times.rotation, List.mem_singleton.mp hp⟩
  · rwa [← hl.place hc]

lemma Covers.sibling (h : log.Covers current names) (hn : IsName name)
    (hp : Files.parts log.path.toList = before ++ [name.toList]) :
    ∃ other, (other = name ∨ ∃ stamp, other = rotatedName name stamp) ∧
      placeAbove current log.path before ++ [other] <+: names := by
  obtain ⟨path, rfl | ⟨time, rfl⟩, hprefix⟩ := h
  · rw [placeOf_parts hn hp] at hprefix
    exact ⟨name, .inl rfl, hprefix⟩
  · have hs := isName_rotatedName hn (Instant.slash_not_mem_stamp time)
    rw [rotatedPath, Files.fileName_of_parts hn hp, Option.getD_some, placeOf_withFileName hn hs hp] at hprefix
    exact ⟨_, .inr ⟨time.stamp, rfl⟩, hprefix⟩

lemma Covers.deeper (h : log.Covers current names) (hn : IsName name)
    (hp : Files.parts log.path.toList = before ++ [name.toList]) :
    (placeAbove current log.path before).length < names.length := by
  obtain ⟨other, -, hprefix⟩ := h.sibling hn hp
  have hl := hprefix.length_le
  rw [List.length_append, List.length_singleton] at hl
  exact hl

lemma not_covers (hn : IsName name) (hp : Files.parts log.path.toList = before ++ [name.toList]) (ho : other ≠ name)
    (hr : ∀ stamp, other ≠ rotatedName name stamp) :
    ¬ log.Covers current (placeAbove current log.path before ++ [other]) := by
  intro h
  obtain ⟨covered, rfl | ⟨stamp, rfl⟩, hprefix⟩ := h.sibling hn hp
  · exact siblings_apart ho.symm hprefix
  · exact siblings_apart (hr stamp).symm hprefix

end AuditLog

namespace Settings

variable (settings : Settings)

def log : AuditLog :=
  ⟨settings.logFile, settings.logLimit⟩

lemma isName_stateFile : IsName "terminals.json" := by
  refine ⟨?_, ?_, ?_, ?_⟩ <;> decide

lemma isName_logFile : IsName "commands.log" := by
  refine ⟨?_, ?_, ?_, ?_⟩ <;> decide

lemma rotatedName_logFile (stamp : String) : "terminals.json" ≠ AuditLog.rotatedName "commands.log" stamp := by
  intro h
  have hs : Files.splitExtension "commands.log" = ("commands", some "log") := by decide
  rw [AuditLog.rotatedName, hs, ← String.toList_inj] at h
  simp at h

lemma clear_stateFile (h : Clear current (settings.log.Covers current) settings.stateDirectory) :
    Clear current (settings.log.Covers current) settings.stateFile := by
  obtain ⟨before, rooted, hj, hb⟩ := Files.parts_join settings.stateDirectory
  obtain ⟨hp, hr⟩ := hj _ isName_stateFile
  obtain ⟨hp', hr'⟩ := hj _ isName_logFile
  have hstart : start current settings.stateFile = start current settings.logFile := by
    rw [start, start, stateFile, logFile, hr, hr']
  refine clear_parts hp ?_ ?_
  · rcases hb with ⟨⟨idle, hd, -⟩, hroot⟩ | ⟨rfl, -⟩
    · rw [Clear, hd, List.map_append, avoids_append, start, hroot, ← hr] at h
      exact h.1
    · trivial
  · rw [placeAbove, hstart, ← placeAbove]
    exact AuditLog.not_covers isName_logFile hp' (by decide) rotatedName_logFile

lemma clear_stateDirectory (h : "..".toList ∉ Files.parts settings.stateDirectory.toList) :
    Clear current (settings.log.Covers current) settings.stateDirectory := by
  obtain ⟨before, rooted, hj, hb⟩ := Files.parts_join settings.stateDirectory
  obtain ⟨hp, hr⟩ := hj _ isName_logFile
  have hdots : ".." ∉ (Files.parts settings.stateDirectory.toList).map String.ofList := by
    rw [← String.ofList_toList (s := ".."), List.mem_map_of_injective fun _ _ he => String.ofList_injective he]
    exact h
  rcases hb with ⟨⟨idle, hd, hv⟩, hroot⟩ | ⟨rfl, he⟩
  -- the state directory holds the log, so all that the log covers is deeper
  · refine avoids_deeper hdots fun place hc => ?_
    have hl := hc.deeper isName_logFile hp
    have hs : start current settings.stateDirectory = start current settings.logFile := by
      rw [start, start, logFile, hr, hroot]
    rwa [hd, List.map_append, List.foldl_append, foldl_heading_void hv, hs]
  · rw [Clear, he]
    exact avoids_void (by simp [Files.parts, Files.IsVoid]) _

end Settings

end TerminalSessions

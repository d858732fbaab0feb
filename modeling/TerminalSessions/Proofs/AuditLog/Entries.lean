import TerminalSessions.Proofs.AuditLog.Rotation
import TerminalSessions.Proofs.Json.SingleLine
import TerminalSessions.Proofs.Text.ByteLines
import TerminalSessions.Proofs.Text.Columns

namespace TerminalSessions.AuditLog

open FileTree
open Text (Ended byteLines)

variable {log : AuditLog} {times : EntryTimes} {command : String} {arguments : Json.Value} {stamp : String}
  {before after files : FileTree} {directory : List String} {name : String}

def bar : List Char :=
  [' ', '|', ' ']

lemma entry_toList (time : Instant) (command : String) (arguments : Json.Value) :
    (entry time command arguments).toList = time.timestamp.toList ++ (bar ++
      ((Text.alignLeft 14 command).toList ++ (bar ++ ((logged arguments).write ++ ['\n'])))) := by
  have hb : " | ".toList = bar := rfl
  simp [entry, hb, Json.Value.text]

lemma entry_break (time : Instant) (command : String) (arguments : Json.Value) :
    (entry time command arguments).toList = (time.timestamp.toList ++ (bar ++
      ((Text.alignLeft 14 command).toList ++ (bar ++ (logged arguments).write)))) ++ ['\n'] := by
  simp [entry_toList]

lemma entry_line (time : Instant) (h : '\n' ∉ command.toList) (arguments : Json.Value) :
    ∃ start, (entry time command arguments).toList = start ++ ['\n'] ∧ '\n' ∉ start := by
  have ht : '\n' ∉ time.timestamp.toList := Instant.not_mem_timestamp rfl (by decide) time
  have hn : '\n' ∉ (Text.alignLeft 14 command).toList := fun hm => by
    rcases Text.mem_alignLeft hm with hm | hm
    · exact h hm
    · cases hm
  have ho : '\n' ∉ (logged arguments).write := (logged arguments).newline_not_mem
  exact ⟨_, entry_break time command arguments, by simp [ht, hn, ho, bar]⟩

lemma entry_ended (times : EntryTimes) (command : String) (arguments : Json.Value) :
    Ended (entryBytes times command arguments).data.toList := by
  rw [entryBytes, Text.toUTF8_break (entry_break _ _ _)]
  intro byte hl
  simpa using hl.symm

structure Placed (log : AuditLog) (directory : List String) (name : String) (files : FileTree) : Prop where
  resolve : files.resolve log.path = .ok (.entry directory name false)
  size : name.utf8ByteSize ≤ nameLimit
  node : files.node? (directory ++ [name]) ≠ some .directory
  ended : Ended (files.bytesAt (directory ++ [name])).data.toList

structure Fits (log : AuditLog) (name stamp : String) : Prop where
  path : IsPath (log.rotatedPath stamp)
  size : (rotatedName name stamp).utf8ByteSize ≤ nameLimit
  stamp : '/' ∉ stamp.toList

def aside (directory : List String) (name stamp : String) : List String :=
  directory ++ [rotatedName name stamp]

lemma siblings_apart {name other : String} (h : name ≠ other) : ¬ directory ++ [name] <+: directory ++ [other] := by
  intro hp
  exact h (by simpa using hp.eq_of_length (by simp))

lemma aside_ne (directory : List String) (name stamp : String) :
    aside directory name stamp ≠ directory ++ [name] := by
  simp [aside, rotatedName_ne]

lemma node_moved (directory : List String) (name : String) (files : FileTree) {stamp other : String}
    (h : other ≠ stamp) : (files.move (directory ++ [name]) (aside directory name stamp)).node? (aside directory name other) =
      files.node? (aside directory name other) :=
  node_move_apart (siblings_apart ((rotatedName_injective name).ne h.symm))
    (siblings_apart (rotatedName_ne name other).symm)

lemma node_moved_log (directory : List String) (name stamp : String) (files : FileTree) :
    (files.move (directory ++ [name]) (aside directory name stamp)).node? (directory ++ [name]) = none :=
  node_move_source (siblings_apart (rotatedName_ne name stamp)) entry_ne_nil

lemma resolve_aside (h : files.resolve log.path = .ok (.entry directory name false))
    (hp : IsPath (log.rotatedPath stamp)) (hs : '/' ∉ stamp.toList) :
    files.resolve (log.rotatedPath stamp) = .ok (.entry directory (rotatedName name stamp) false) := by
  have hn := (resolve_entry.mp h).2.1
  rw [rotatedPath, fileName_entry h, Option.getD_some] at *
  exact resolve_sibling h (isName_rotatedName hn hs) hp

lemma renamed (hl : before.LeadsTo log.path (directory ++ [name]))
    (hd : before.node? (directory ++ [name]) ≠ some .directory) (hs : '/' ∉ stamp.toList)
    (hr : before.rename log.path (log.rotatedPath stamp) = .ok after) :
    Fits log name stamp ∧ before.node? (aside directory name stamp) ≠ some .directory ∧
      before.node? (directory ++ [name]) = some (.file (before.bytesAt (directory ++ [name]))) ∧
        after = before.move (directory ++ [name]) (aside directory name stamp) := by
  obtain ⟨source, target, node, hsource, ⟨_, _, _, hre, hsize, ht⟩, hn, hm⟩ := rename_ok hr
  obtain rfl := hsource.unique rfl hl.endsAt
  have hp : IsPath (log.rotatedPath stamp) := (resolve_ok.mp hre).1
  cases hre.symm.trans (resolve_aside hl.resolve.1 hp hs)
  obtain rfl : target = aside directory name stamp := ht
  have hf := file_of_ne_directory hn hd
  rcases hm with ⟨he, -⟩ | ⟨-, hre, rfl⟩
  · exact absurd he.symm (aside_ne directory name stamp)
  · refine ⟨⟨hp, hsize, hs⟩, fun hd => ?_, hf, rfl⟩
    rw [hd, Option.some.inj (hn.symm.trans hf)] at hre
    cases hre

lemma record_puts (hl : before.LeadsTo log.path (directory ++ [name]))
    (hd : before.node? (directory ++ [name]) ≠ some .directory)
    (hr : log.record (m := StateM FileTree) times command arguments before = (.ok (), after)) :
    log.isFull before = false ∧ after = before.put (directory ++ [name])
        (.file (before.bytesAt (directory ++ [name]) ++ entryBytes times command arguments)) ∨
      log.isFull before = true ∧ Fits log name times.rotation.stamp ∧
        before.node? (aside directory name times.rotation.stamp) ≠ some .directory ∧
          before.node? (directory ++ [name]) = some (.file (before.bytesAt (directory ++ [name]))) ∧
            (before.move (directory ++ [name]) (aside directory name times.rotation.stamp)).LeadsTo log.path
              (directory ++ [name]) ∧
              after = (before.move (directory ++ [name]) (aside directory name times.rotation.stamp)).put
                (directory ++ [name]) (.file (entryBytes times command arguments)) := by
  obtain ⟨mid, place, hm, hlog, -, rfl⟩ := record_ok hr
  have hc := log.rotateIfFull_current times.rotation before
  rw [hm] at hc
  obtain rfl := hl.endsAt.unique hc hlog.endsAt
  rcases rotateIfFull_ok hm with ⟨hf, rfl⟩ | ⟨hf, hren⟩
  · exact .inl ⟨hf, rfl⟩
  · obtain ⟨hfits, hrep, hfile, rfl⟩ := renamed hl hd (Instant.slash_not_mem_stamp _) hren
    refine .inr ⟨hf, hfits, hrep, hfile, hlog, ?_⟩
    rw [bytesAt_missing (node_moved_log _ _ _ _), ByteArray.empty_append]

namespace Placed

lemma leadsTo (h : Placed log directory name files) : files.LeadsTo log.path (directory ++ [name]) :=
  ⟨directory, name, h.resolve, h.size, rfl⟩

lemma leadsTo_aside (h : Placed log directory name files) (hf : Fits log name stamp) :
    files.LeadsTo (log.rotatedPath stamp) (aside directory name stamp) :=
  ⟨directory, rotatedName name stamp, resolve_aside h.resolve hf.path hf.stamp, hf.size, rfl⟩

end Placed

structure Appends (directory : List String) (name : String) (bytes : ByteArray) (before after : FileTree) : Prop where
  log : after.bytesAt (directory ++ [name]) = before.bytesAt (directory ++ [name]) ++ bytes
  others : ∀ stamp, after.node? (aside directory name stamp) = before.node? (aside directory name stamp)

structure Rotates (directory : List String) (name stamp : String) (bytes : ByteArray) (before after : FileTree) :
    Prop where
  log : after.bytesAt (directory ++ [name]) = bytes
  moved : after.node? (aside directory name stamp) = some (.file (before.bytesAt (directory ++ [name])))
  replaced : before.node? (aside directory name stamp) ≠ some .directory
  others : ∀ other ≠ stamp,
    after.node? (aside directory name other) = before.node? (aside directory name other)

namespace Placed

lemma put {content : ByteArray} (hl : files.LeadsTo log.path (directory ++ [name]))
    (hd : files.node? (directory ++ [name]) ≠ some .directory) (he : Ended content.data.toList) :
    Placed log directory name (files.put (directory ++ [name]) (.file content)) := by
  have hn : (files.put (directory ++ [name]) (.file content)).node? (directory ++ [name]) = some (.file content) :=
    node_put_self hl.ne_nil _
  obtain ⟨hr, hs⟩ := (hl.kept (keeps_put_file hl.ne_nil hd content)).resolve
  exact ⟨hr, hs, by simp [hn], by rwa [bytesAt_file hn]⟩

lemma record (h : Placed log directory name before)
    (hr : log.record (m := StateM FileTree) times command arguments before = (.ok (), after)) :
    Placed log directory name after ∧
      (log.isFull before = false ∧ Appends directory name (entryBytes times command arguments) before after ∨
        log.isFull before = true ∧ Fits log name times.rotation.stamp ∧
          Rotates directory name times.rotation.stamp (entryBytes times command arguments) before after) := by
  have hlog : ∀ (files : FileTree) content, (files.put (directory ++ [name]) (.file content)).bytesAt
      (directory ++ [name]) = content := fun files content => bytesAt_file (node_put_self entry_ne_nil _)
  have haside : ∀ (files : FileTree) content stamp, (files.put (directory ++ [name]) (.file content)).node?
      (aside directory name stamp) = files.node? (aside directory name stamp) := fun files content stamp => by
    rw [node_put entry_ne_nil, if_neg (aside_ne directory name stamp)]
  have hbytes := entry_ended times command arguments
  rcases record_puts h.leadsTo h.node hr with ⟨hf, rfl⟩ | ⟨hf, hfits, hrep, hfile, hl, rfl⟩
  · refine ⟨put h.leadsTo h.node ?_, .inl ⟨hf, hlog _ _, haside _ _⟩⟩
    rw [ByteArray.data_append, Array.toList_append]
    exact h.ended.append hbytes
  · refine ⟨put hl (by simp [node_moved_log]) hbytes, .inr ⟨hf, hfits, hlog _ _, ?_, hrep, fun other ho => ?_⟩⟩
    · rw [haside, node_move_target (aside_ne _ _ _).symm entry_ne_nil entry_ne_nil, hfile]
    · rw [haside, node_moved directory name before ho]

end Placed

end TerminalSessions.AuditLog

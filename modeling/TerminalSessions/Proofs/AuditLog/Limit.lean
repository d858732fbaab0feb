import TerminalSessions.Proofs.AuditLog.Lines

/-! How long a log gets: each entry begins a new log or is put behind less than the limit, so that only the last line
can take a log beyond it. -/

namespace TerminalSessions.AuditLog

open FileTree
open Text (byteLines beforeLast IsLine)

def Call.bytes (call : Call) : ByteArray :=
  entryBytes call.times call.command call.arguments

def Opens (log : AuditLog) (files : FileTree) : Prop :=
  files.read log.path = .error .notFound ∨ ∃ content, files.read log.path = .ok content

def Within (limit : ℕ) (content : ByteArray) : Prop :=
  beforeLast content.data.toList = [] ∨ (beforeLast content.data.toList).length < limit

structure Extends (log : AuditLog) (old line : ByteArray) (found left : FileTree) : Prop where
  content : left.read log.path = .ok (old ++ line)
  others : ∃ place, found.LeadsTo log.path place ∧ ∀ names ≠ place, left.node? names = found.node? names

structure Restarts (log : AuditLog) (stamp : String) (old line : ByteArray) (found left : FileTree) : Prop where
  content : left.read log.path = .ok line
  moved : left.read (log.rotatedPath stamp) = .ok old
  beside : ∃ directory name, name ≠ rotatedName name stamp ∧
    found.resolve log.path = .ok (.entry directory name false) ∧
      found.resolve (log.rotatedPath stamp) = .ok (.entry directory (rotatedName name stamp) false) ∧
        ∀ names, ¬ directory ++ [name] <+: names → ¬ directory ++ [rotatedName name stamp] <+: names →
          left.node? names = found.node? names

inductive Outcome (log : AuditLog) (call : Call) (found left : FileTree) : Prop
  | fresh (hr : found.read log.path = .error .notFound) (he : Extends log ByteArray.empty call.bytes found left)
  | room {old : ByteArray} (hr : found.read log.path = .ok old) (hs : old.size < log.limit)
      (he : Extends log old call.bytes found left)
  | full {old : ByteArray} (hr : found.read log.path = .ok old) (hs : log.limit ≤ old.size)
      (he : Restarts log call.times.rotation.stamp old call.bytes found left)

structure Recorded (log : AuditLog) (call : Call) (found left : FileTree) : Prop where
  line : byteLines call.bytes.data.toList = [call.bytes.data.toList]
  outcome : log.Outcome call found left
  within : ∃ content, left.read log.path = .ok content ∧ Within log.limit content

variable {log : AuditLog} {before after found left : FileTree} {calls : List Call} {call : Call}
  {directory place : List String} {name stamp : String} {old line : ByteArray}

lemma isLine_bytes (h : '\n' ∉ call.command.toList) : IsLine call.bytes.data.toList :=
  Text.isLine_toUTF8 (entry_line call.times.entry h call.arguments)

lemma within_append {limit : ℕ} (hl : IsLine line.data.toList) (h : old = ByteArray.empty ∨ old.size < limit) :
    Within limit (old ++ line) := by
  have hp := Text.beforeLast_append old.data.toList hl
  rw [Within, ByteArray.data_append, Array.toList_append]
  rcases h with rfl | hs
  · exact .inl (List.prefix_nil.mp hp)
  · have hsize : old.data.toList.length = old.size := Array.length_toList
    exact .inr (lt_of_le_of_lt (hsize ▸ hp.length_le) hs)

lemma Opens.node (ho : log.Opens found) (hl : found.LeadsTo log.path place) :
    found.node? place ≠ some .directory := by
  intro hd
  rw [Opens, read_leadsTo hl, hd] at ho
  simp at ho

lemma isFull_file (hl : found.LeadsTo log.path place) (hn : found.node? place = some (.file old)) :
    log.isFull found = decide (log.limit ≤ old.size) := by
  rw [isFull, status_leadsTo hl, hn]
  rfl

lemma extends_put (hl : found.LeadsTo log.path place) (hd : found.node? place ≠ some .directory) (line : ByteArray) :
    Extends log (found.bytesAt place) line found (found.put place (.file (found.bytesAt place ++ line))) where
  content := read_ok.mpr ⟨place, hl.kept (keeps_put_file hl.ne_nil hd _), node_put_self hl.ne_nil _⟩
  others := ⟨place, hl, fun names hn => by rw [node_put hl.ne_nil, if_neg hn]⟩

lemma restarts_put (hr : found.resolve log.path = .ok (.entry directory name false)) (hf : Fits log name stamp)
    (ho : found.node? (directory ++ [name]) = some (.file old))
    (hl : (found.move (directory ++ [name]) (aside directory name stamp)).LeadsTo log.path (directory ++ [name]))
    (line : ByteArray) :
    Restarts log stamp old line found
      ((found.move (directory ++ [name]) (aside directory name stamp)).put (directory ++ [name]) (.file line)) := by
  have hkept := hl.kept (keeps_put_file hl.ne_nil (by simp [node_moved_log]) line)
  refine ⟨read_ok.mpr ⟨_, hkept, node_put_self entry_ne_nil _⟩, read_ok.mpr ⟨aside directory name stamp, ?_, ?_⟩,
    directory, name, (rotatedName_ne name stamp).symm, hr, resolve_aside hr hf.path hf.stamp, ?_⟩
  · exact ⟨directory, _, resolve_aside hkept.resolve.1 hf.path hf.stamp, hf.size, rfl⟩
  · rw [node_put entry_ne_nil, if_neg (aside_ne directory name stamp),
      node_move_target (aside_ne directory name stamp).symm entry_ne_nil entry_ne_nil, ho]
  · intro names hlog haside
    have hne : names ≠ directory ++ [name] := fun he => hlog (he ▸ List.prefix_rfl)
    rw [node_put entry_ne_nil, if_neg hne]
    exact node_move_apart haside hlog

lemma outcome_record (ho : log.Opens found)
    (hr : log.record (m := StateM FileTree) call.times call.command call.arguments found = (.ok (), left)) :
    log.Outcome call found left := by
  obtain ⟨_, directory, name, hre, hs, rfl⟩ := leadsTo_of_record hr
  have hl : found.LeadsTo log.path (directory ++ [name]) := ⟨directory, name, hre, hs, rfl⟩
  have hd := ho.node hl
  have hread := read_leadsTo hl
  rcases record_puts hl hd hr with ⟨hf, rfl⟩ | ⟨hf, hfits, -, hfile, hmoved, rfl⟩
  · have he := extends_put hl hd call.bytes
    cases hn : found.node? (directory ++ [name]) with
    | none =>
      rw [hn] at hread
      rw [bytesAt_missing hn] at he ⊢
      exact .fresh hread he
    | some node =>
      have hfile := file_of_ne_directory hn hd
      rw [hfile] at hread
      rw [isFull_file hl hfile, decide_eq_false_iff_not, not_le] at hf
      exact .room hread hf he
  · rw [hfile] at hread
    rw [isFull_file hl hfile, decide_eq_true_eq] at hf
    exact .full hread hf (restarts_put hre hfits hfile hmoved call.bytes)

lemma Outcome.within (h : log.Outcome call found left) (hl : IsLine call.bytes.data.toList) :
    ∃ content, left.read log.path = .ok content ∧ Within log.limit content := by
  cases h with
  | fresh _ he => exact ⟨_, he.content, within_append hl (.inl rfl)⟩
  | room _ hs he => exact ⟨_, he.content, within_append hl (.inr hs)⟩
  | full _ _ he => exact ⟨_, he.content, .inl (Text.beforeLast_line hl)⟩

lemma recorded (ho : log.Opens found) (hn : '\n' ∉ call.command.toList)
    (hr : log.record (m := StateM FileTree) call.times call.command call.arguments found = (.ok (), left)) :
    log.Recorded call found left := by
  have hl := isLine_bytes hn
  have h := outcome_record ho hr
  exact ⟨Text.byteLines_line hl, h, h.within hl⟩

/-- Each call of a run finds the log as the calls before it have left it. It puts its line behind a log that is shorter
than the limit, and renames nothing then; a log that has reached the limit it moves as it is, and begins a new one. So
the log is within the limit after each call, but for its last line. -/
theorem within_limit (hr : log.recordAll calls before = (.ok (), after)) (ho : log.Opens before)
    (hc : ∀ call ∈ calls, '\n' ∉ call.command.toList) :
    ∀ earlier call later, calls = earlier ++ call :: later → ∃ found left,
      log.recordAll earlier before = (.ok (), found) ∧
        log.record (m := StateM FileTree) call.times call.command call.arguments found = (.ok (), left) ∧
          log.recordAll later left = (.ok (), after) ∧ log.Recorded call found left := by
  rintro earlier call later rfl
  induction earlier generalizing before with
  | nil =>
    obtain ⟨left, hm, hrest⟩ := recordAll_cons.mp hr
    exact ⟨before, left, rfl, hm, hrest, recorded ho (hc call (by simp)) hm⟩
  | cons first earlier ih =>
    obtain ⟨middle, hm, hrest⟩ := recordAll_cons.mp hr
    obtain ⟨content, hcontent, -⟩ := (recorded ho (hc first (by simp)) hm).within
    obtain ⟨found, left, he, hcall, hl, hrec⟩ := ih (.inr ⟨content, hcontent⟩) hrest
      fun other hmem => hc other (List.mem_cons_of_mem _ hmem)
    exact ⟨found, left, recordAll_cons.mpr ⟨middle, hm, he⟩, hcall, hl, hrec⟩

theorem within_limit_twice :
    let log : AuditLog := { path := "logs/commands.log", limit := 64 }
    let files : FileTree :=
      { entries := [(["logs"], .directory), (["logs", "commands.log"], .file "né".toUTF8)] }
    let arguments := Json.Value.object [("caption", .string "ü\n|"), ("tabs", .array [.integer (-1), .null])]
    let call : Call := { times := default, command := "new", arguments }
    ∃ middle after, log.recordAll [call, call] files = (.ok (), after) ∧ log.Opens files ∧
      '\n' ∉ call.command.toList ∧ log.Recorded call files middle ∧ log.Recorded call middle after ∧
        log.isFull files = false ∧ log.isFull middle = true := by
  intro log files arguments call
  have hok : (log.recordAll [call, call] files).1 = .ok () := by decide +kernel
  have ho : log.Opens files := .inr ⟨"né".toUTF8, by decide +kernel⟩
  have hn : '\n' ∉ call.command.toList := by decide
  have hc : ∀ other ∈ [call, call], '\n' ∉ other.command.toList := by simp [hn]
  have hfull : log.isFull (log.recordAll [call] files).2 = true := by decide +kernel
  generalize hr : log.recordAll [call, call] files = result at hok
  obtain ⟨answer, after⟩ := result
  obtain rfl : answer = .ok () := hok
  obtain ⟨_, first, hnone, hfirst, -, hrec⟩ := within_limit hr ho hc [] call [call] rfl
  obtain ⟨_, _, hone, -, hlast, hrec'⟩ := within_limit hr ho hc [call] call [] rfl
  cases hnone
  cases hlast
  have hm : log.recordAll [call] files = (.ok (), first) := recordAll_cons.mpr ⟨first, hfirst, rfl⟩
  cases hone.symm.trans hm
  rw [hone] at hfull
  exact ⟨_, after, rfl, ho, hn, hrec, hrec', by decide +kernel, hfull⟩

end TerminalSessions.AuditLog

import Mathlib.Algebra.BigOperators.Group.Finset.Basic
import Mathlib.Algebra.Order.Group.Multiset
import Mathlib.Data.List.Nodup
import Mathlib.Tactic.Abel
import TerminalSessions.Proofs.AuditLog.Entries

/-! Lines of a log over many entries. A line is lost exactly where a log is put aside under a name that is taken. -/

namespace TerminalSessions.AuditLog

open FileTree
open Text (Ended byteLines)

structure Call where
  times : EntryTimes
  command : String
  arguments : Json.Value

def linesOf (bytes : ByteArray) : Multiset (List UInt8) :=
  byteLines bytes.data.toList

def Call.lines (call : Call) : Multiset (List UInt8) :=
  linesOf (entryBytes call.times call.command call.arguments)

def recordAll (log : AuditLog) : List Call → StateM FileTree (Except FileFault Unit)
  | [] => return .ok ()
  | call :: calls => do
    match ← log.record call.times call.command call.arguments with
    | .error fault => return .error fault
    | .ok () => log.recordAll calls

structure Rotation where
  files : FileTree
  time : Instant

def rotations (log : AuditLog) (files : FileTree) : List Call → List Rotation
  | [] => []
  | call :: calls =>
    let after := (log.record (m := StateM FileTree) call.times call.command call.arguments files).2
    if log.isFull files then ⟨files, call.times.rotation⟩ :: log.rotations after calls
    else log.rotations after calls

def linesAt (files : FileTree) (path : String) : Multiset (List UInt8) :=
  match files.read path with
  | .ok content => linesOf content
  | .error _ => 0

def kept (log : AuditLog) (stamps : Finset String) (files : FileTree) : Multiset (List UInt8) :=
  linesAt files log.path + ∑ stamp ∈ stamps, linesAt files (log.rotatedPath stamp)

def written (calls : List Call) : Multiset (List UInt8) :=
  (calls.map (·.lines)).sum

/-- The lines of the files whose names were taken when logs were put aside. -/
def overwritten (log : AuditLog) (rotations : List Rotation) : Multiset (List UInt8) :=
  (rotations.map fun rotation => linesAt rotation.files (log.rotatedPath rotation.time.stamp)).sum

variable {log : AuditLog} {before after files : FileTree} {calls : List Call} {call : Call} {directory : List String}
  {name stamp path : String} {place : List String} {stamps : Finset String}

lemma linesOf_append {bytes : ByteArray} (h : Ended bytes.data.toList) (others : ByteArray) :
    linesOf (bytes ++ others) = linesOf bytes + linesOf others := by
  rw [linesOf, ByteArray.data_append, Array.toList_append, Text.byteLines_append h, ← Multiset.coe_add]
  rfl

lemma linesAt_leadsTo (h : files.LeadsTo path place) : linesAt files path = linesOf (files.bytesAt place) := by
  rw [linesAt, read_leadsTo h, bytesAt]
  rcases files.node? place with _ | _ | _ <;> rfl

lemma recordAll_cons : log.recordAll (call :: calls) before = (.ok (), after) ↔
    ∃ middle, log.record (m := StateM FileTree) call.times call.command call.arguments before = (.ok (), middle) ∧
      log.recordAll calls middle = (.ok (), after) := by
  rw [recordAll, bind_run]
  rcases log.record (m := StateM FileTree) call.times call.command call.arguments before with ⟨_ | _, middle⟩
  · refine ⟨(fun h => by cases h), ?_⟩
    rintro ⟨_, h, -⟩
    cases h
  · refine ⟨fun h => ⟨middle, rfl, h⟩, ?_⟩
    rintro ⟨_, hm, h⟩
    cases hm
    exact h

lemma kept_placed (h : Placed log directory name files) (hs : ∀ stamp ∈ stamps, Fits log name stamp) :
    log.kept stamps files = linesOf (files.bytesAt (directory ++ [name])) +
      ∑ stamp ∈ stamps, linesOf (files.bytesAt (aside directory name stamp)) := by
  rw [kept, linesAt_leadsTo h.leadsTo]
  exact congrArg _ (Finset.sum_congr rfl fun stamp hm => linesAt_leadsTo (h.leadsTo_aside (hs stamp hm)))

variable {bytes : ByteArray}

lemma Appends.kept (ha : Appends directory name bytes before after) (h : Placed log directory name before)
    (h' : Placed log directory name after) (hs : ∀ stamp ∈ stamps, Fits log name stamp) :
    log.kept stamps after = log.kept stamps before + linesOf bytes := by
  have hothers : ∀ stamp, after.bytesAt (aside directory name stamp) = before.bytesAt (aside directory name stamp) :=
    fun stamp => bytesAt_congr (ha.others stamp)
  rw [kept_placed h hs, kept_placed h' hs, ha.log, linesOf_append h.ended, add_right_comm]
  simp only [hothers]

lemma Rotates.kept (hr : Rotates directory name stamp bytes before after) (h : Placed log directory name before)
    (h' : Placed log directory name after) (hs : ∀ stamp ∈ stamps, Fits log name stamp) (hm : stamp ∈ stamps) :
    log.kept stamps after + linesAt before (log.rotatedPath stamp) = log.kept stamps before + linesOf bytes := by
  have hothers : ∑ other ∈ stamps.erase stamp, linesOf (after.bytesAt (aside directory name other)) =
      ∑ other ∈ stamps.erase stamp, linesOf (before.bytesAt (aside directory name other)) :=
    Finset.sum_congr rfl fun other ho => by
      rw [bytesAt_congr (hr.others other (Finset.ne_of_mem_erase ho))]
  rw [kept_placed h hs, kept_placed h' hs, linesAt_leadsTo (h.leadsTo_aside (hs stamp hm)),
    ← Finset.add_sum_erase stamps _ hm, ← Finset.add_sum_erase stamps _ hm, hothers, hr.log,
    bytesAt_file hr.moved]
  abel

lemma rotations_cons
    (hr : log.record (m := StateM FileTree) call.times call.command call.arguments before = (.ok (), after)) :
    log.rotations before (call :: calls) =
      (if log.isFull before then [⟨before, call.times.rotation⟩] else []) ++ log.rotations after calls := by
  rw [rotations, hr]
  split <;> rfl

lemma placed_rotations (h : Placed log directory name before) (hr : log.recordAll calls before = (.ok (), after)) :
    ∀ rotation ∈ log.rotations before calls,
      Placed log directory name rotation.files ∧ Fits log name rotation.time.stamp := by
  induction calls generalizing before with
  | nil => simp [rotations]
  | cons call calls ih =>
    obtain ⟨middle, hm, hr⟩ := recordAll_cons.mp hr
    obtain ⟨h', hs⟩ := h.record hm
    rw [rotations_cons hm]
    intro rotation hrot
    rcases List.mem_append.mp hrot with hrot | hrot
    · rcases hs with ⟨hf, -⟩ | ⟨hf, hfits, -⟩
      · simp [hf] at hrot
      · rw [if_pos hf] at hrot
        rw [List.mem_singleton.mp hrot]
        exact ⟨h, hfits⟩
    · exact ih h' hr rotation hrot

lemma kept_recordAll (h : Placed log directory name before) (hr : log.recordAll calls before = (.ok (), after))
    (hs : ∀ stamp ∈ stamps, Fits log name stamp)
    (hm : ∀ rotation ∈ log.rotations before calls, rotation.time.stamp ∈ stamps) :
    log.kept stamps after + log.overwritten (log.rotations before calls) =
      log.kept stamps before + written calls := by
  -- the step is carried by the log having its place after each call
  induction calls generalizing before with
  | nil =>
    cases hr
    rfl
  | cons call calls ih =>
    obtain ⟨middle, hmid, hr⟩ := recordAll_cons.mp hr
    obtain ⟨h', hstep⟩ := h.record hmid
    rw [rotations_cons hmid] at hm ⊢
    have hrest := ih h' hr fun rotation hrot => hm rotation (List.mem_append_right _ hrot)
    have hw : written (call :: calls) = call.lines + written calls := by
      rw [written, List.map_cons, List.sum_cons]
      rfl
    rcases hstep with ⟨hf, ha⟩ | ⟨hf, -, ha⟩
    · have hk : log.kept stamps middle = log.kept stamps before + call.lines := ha.kept h h' hs
      rw [hf, if_neg Bool.false_ne_true, List.nil_append, hrest, hk, hw, add_assoc]
    · rw [if_pos hf] at hm ⊢
      have ht := hm _ (List.mem_append_left _ (List.mem_singleton_self _))
      have hk : log.kept stamps middle + linesAt before (log.rotatedPath call.times.rotation.stamp) =
          log.kept stamps before + call.lines := ha.kept h h' hs ht
      have ho : log.overwritten ([⟨before, call.times.rotation⟩] ++ log.rotations middle calls) =
          linesAt before (log.rotatedPath call.times.rotation.stamp) +
            log.overwritten (log.rotations middle calls) := by
        rw [overwritten, List.singleton_append, List.map_cons, List.sum_cons]
        rfl
      rw [ho, add_left_comm, hrest, add_left_comm, ← add_assoc, hk, hw, add_assoc]

lemma free_rotations (h : Placed log directory name before) (hr : log.recordAll calls before = (.ok (), after)) :
    (∀ rotation ∈ log.rotations before calls,
        rotation.files.node? (aside directory name rotation.time.stamp) = none) ↔
      ((log.rotations before calls).map (·.time.stamp)).Nodup ∧
        ∀ rotation ∈ log.rotations before calls, before.node? (aside directory name rotation.time.stamp) = none := by
  induction calls generalizing before with
  | nil => simp [rotations]
  | cons call calls ih =>
    obtain ⟨middle, hmid, hr⟩ := recordAll_cons.mp hr
    obtain ⟨h', hstep⟩ := h.record hmid
    rw [rotations_cons hmid]
    rcases hstep with ⟨hf, ha⟩ | ⟨hf, -, ha⟩
    · rw [hf, if_neg Bool.false_ne_true, List.nil_append, ih h' hr]
      simp only [ha.others]
    · -- from here on the name with this stamp is taken, and no other name has become so
      have hfree : ∀ stamp, middle.node? (aside directory name stamp) = none ↔
          stamp ≠ call.times.rotation.stamp ∧ before.node? (aside directory name stamp) = none := fun stamp => by
        by_cases hs : stamp = call.times.rotation.stamp
        · simp [hs, ha.moved]
        · simp [hs, ha.others stamp hs]
      rw [if_pos hf, List.singleton_append, List.forall_mem_cons, ih h' hr, List.map_cons, List.nodup_cons,
        List.forall_mem_cons]
      simp only [hfree, List.mem_map, not_exists, not_and, forall_and]
      tauto

def Begins (log : AuditLog) (files : FileTree) : Prop :=
  files.read log.path = .error .notFound ∨
    ∃ content, files.read log.path = .ok content ∧ Ended content.data.toList

lemma Begins.placed (hb : log.Begins files) (hr : files.resolve log.path = .ok (.entry directory name false))
    (hs : name.utf8ByteSize ≤ nameLimit) : Placed log directory name files := by
  have hread := read_leadsTo ⟨directory, name, hr, hs, rfl⟩
  rw [Begins, hread] at hb
  cases hn : files.node? (directory ++ [name]) with
  | none => exact ⟨hr, hs, by simp [hn], by simp [bytesAt_missing hn, Ended]⟩
  | some node =>
    rw [hn] at hb
    cases node with
    | file content =>
      obtain ⟨content', hc, he⟩ := hb.resolve_left (by simp)
      obtain rfl := Except.ok.inj hc
      exact ⟨hr, hs, by simp [hn], by rwa [bytesAt_file hn]⟩
    | directory => simp at hb

lemma placed_of_record (hb : log.Begins before)
    (hr : log.record (m := StateM FileTree) call.times call.command call.arguments before = (.ok (), after)) :
    ∃ directory name, Placed log directory name before := by
  obtain ⟨_, directory, name, hre, hs, -⟩ := leadsTo_of_record hr
  exact ⟨directory, name, hb.placed hre hs⟩

lemma read_missing (h : files.LeadsTo path place) :
    files.read path = .error .notFound ↔ files.node? place = none := by
  rw [read_leadsTo h]
  rcases files.node? place with _ | _ | _ <;> simp

lemma stamps_nodup (rotations : List Rotation) :
    (rotations.map (·.time.stamp)).Nodup ↔ (rotations.map (·.time.second)).Nodup := by
  simp only [List.Nodup, List.pairwise_map, ne_eq, Instant.stamp_inj]

lemma linesAt_missing (h : files.read path = .error .notFound) : linesAt files path = 0 := by
  rw [linesAt, h]

lemma overwritten_free {rotations : List Rotation}
    (h : ∀ rotation ∈ rotations, rotation.files.read (log.rotatedPath rotation.time.stamp) = .error .notFound) :
    log.overwritten rotations = 0 := by
  refine List.sum_eq_zero fun lines hm => ?_
  obtain ⟨rotation, hrot, rfl⟩ := List.mem_map.mp hm
  exact linesAt_missing (h rotation hrot)

lemma missing_rotations (h : Placed log directory name before) (hr : log.recordAll calls before = (.ok (), after)) :
    (∀ rotation ∈ log.rotations before calls,
        rotation.files.read (log.rotatedPath rotation.time.stamp) = .error .notFound) ↔
      ((log.rotations before calls).map (·.time.second)).Nodup ∧
        ∀ rotation ∈ log.rotations before calls,
          before.read (log.rotatedPath rotation.time.stamp) = .error .notFound := by
  have hp := placed_rotations h hr
  have hthen : ∀ rotation ∈ log.rotations before calls,
      (rotation.files.read (log.rotatedPath rotation.time.stamp) = .error .notFound ↔
        rotation.files.node? (aside directory name rotation.time.stamp) = none) := fun rotation hm =>
    read_missing ((hp rotation hm).1.leadsTo_aside (hp rotation hm).2)
  have hstart : ∀ rotation ∈ log.rotations before calls,
      (before.read (log.rotatedPath rotation.time.stamp) = .error .notFound ↔
        before.node? (aside directory name rotation.time.stamp) = none) := fun rotation hm =>
    read_missing (h.leadsTo_aside (hp rotation hm).2)
  rw [forall₂_congr hthen, forall₂_congr hstart, ← stamps_nodup]
  exact free_rotations h hr

/-- Every line is kept exactly once for each time that it was written, in the log or in one of the logs put aside,
but those of the files that were overwritten by a log put aside. None is overwritten if and only if no two logs were
put aside in one second and their names were free at the start. -/
theorem lines_kept (hr : log.recordAll calls before = (.ok (), after)) (hb : log.Begins before) :
    let rotations := log.rotations before calls
    let stamps := (rotations.map (·.time.stamp)).toFinset
    log.kept stamps after + log.overwritten rotations = log.kept stamps before + written calls ∧
      ((∀ rotation ∈ rotations, rotation.files.read (log.rotatedPath rotation.time.stamp) = .error .notFound) ↔
        (rotations.map (·.time.second)).Nodup ∧
          ∀ rotation ∈ rotations, before.read (log.rotatedPath rotation.time.stamp) = .error .notFound) ∧
      ((∀ rotation ∈ rotations, rotation.files.read (log.rotatedPath rotation.time.stamp) = .error .notFound) →
        log.kept stamps after = linesAt before log.path + written calls) := by
  intro rotations stamps
  have hmem : ∀ stamp ∈ stamps, ∃ rotation ∈ rotations, rotation.time.stamp = stamp := fun stamp hm =>
    List.mem_map.mp (List.mem_toFinset.mp hm)
  have hall : log.kept stamps after + log.overwritten rotations = log.kept stamps before + written calls ∧
      ((∀ rotation ∈ rotations, rotation.files.read (log.rotatedPath rotation.time.stamp) = .error .notFound) ↔
        (rotations.map (·.time.second)).Nodup ∧
          ∀ rotation ∈ rotations, before.read (log.rotatedPath rotation.time.stamp) = .error .notFound) := by
    -- without a call the log need not even have a place
    cases calls with
    | nil =>
      cases hr
      simp [rotations, AuditLog.rotations, overwritten, written]
    | cons call calls =>
      obtain ⟨middle, hm, -⟩ := recordAll_cons.mp hr
      obtain ⟨directory, name, h⟩ := placed_of_record hb hm
      have hs : ∀ stamp ∈ stamps, Fits log name stamp := fun stamp hm => by
        obtain ⟨rotation, hrot, rfl⟩ := hmem stamp hm
        exact (placed_rotations h hr rotation hrot).2
      exact ⟨kept_recordAll h hr hs fun rotation hrot => List.mem_toFinset.mpr (List.mem_map_of_mem hrot),
        missing_rotations h hr⟩
  refine ⟨hall.1, hall.2, fun hfree => ?_⟩
  have hstart : ∑ stamp ∈ stamps, linesAt before (log.rotatedPath stamp) = 0 :=
    Finset.sum_eq_zero fun stamp hm => by
      obtain ⟨rotation, hrot, rfl⟩ := hmem stamp hm
      exact linesAt_missing ((hall.2.mp hfree).2 rotation hrot)
  have hkept := hall.1
  rw [overwritten_free hfree, add_zero, kept, kept, hstart, add_zero] at hkept
  rw [kept, hkept]

theorem lines_kept_two_seconds :
    let log : AuditLog := { path := "logs/a.log", limit := 1 }
    let call (seconds : ℕ) : Call :=
      { times := ⟨⟨seconds * 1000000000⟩, ⟨seconds * 1000000000⟩⟩, command := "list", arguments := .object [] }
    let files : FileTree := { entries := [(["logs"], .directory), (["logs", "a.log"], .file "old\n".toUTF8)] }
    let rotations := log.rotations files [call 1, call 2]
    ∃ after, log.recordAll [call 1, call 2] files = (.ok (), after) ∧ rotations.map (·.time.second) = [1, 2] ∧
      log.kept (rotations.map (·.time.stamp)).toFinset after =
        linesAt files log.path + written [call 1, call 2] := by
  intro log call files rotations
  have hr : (log.recordAll [call 1, call 2] files).1 = .ok () := by decide +kernel
  have hs : rotations.map (·.time.second) = [1, 2] := by decide +kernel
  have hm : ∀ rotation ∈ rotations, files.read (log.rotatedPath rotation.time.stamp) = .error .notFound := by
    decide +kernel
  have hb : log.Begins files := .inr ⟨"old\n".toUTF8, by decide +kernel, by decide +kernel⟩
  generalize hf : log.recordAll [call 1, call 2] files = result at hr
  obtain ⟨answer, after⟩ := result
  obtain rfl : answer = .ok () := hr
  obtain ⟨-, hfree, hkept⟩ := lines_kept hf hb
  exact ⟨after, rfl, hs, hkept (hfree.mpr ⟨hs ▸ by decide, hm⟩)⟩

theorem line_lost_in_one_second :
    let log : AuditLog := { path := "a.log", limit := 1 }
    let call (command : String) : Call := { times := default, command, arguments := .object [] }
    let calls := [call "list", call "busy", call "quit"]
    let stamps := ((log.rotations {} calls).map (·.time.stamp)).toFinset
    (log.recordAll calls {}).1 = .ok () ∧ log.Begins {} ∧
      (∃ rotation ∈ log.rotations {} calls,
        rotation.files.read (log.rotatedPath rotation.time.stamp) ≠ .error .notFound) ∧
      Multiset.card (call "list").lines = 1 ∧
        ∀ line ∈ (call "list").lines, line ∉ log.kept stamps (log.recordAll calls {}).2 := by
  refine ⟨by decide +kernel, .inl (by decide +kernel), by decide +kernel, by decide +kernel, by decide +kernel⟩

end TerminalSessions.AuditLog

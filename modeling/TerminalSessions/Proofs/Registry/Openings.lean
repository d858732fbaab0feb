import TerminalSessions.Proofs.Registry.Reservations
import TerminalSessions.Proofs.Registry.Sequences

namespace TerminalSessions

def Terminal.anonymous (terminal : Terminal) : Terminal :=
  { terminal with handle := "" }

namespace SessionRequest

def terminals (supply : ℕ → String) (first : ℕ) (requests : List SessionRequest) : List Terminal :=
  requests.mapIdx fun n request => request.terminal (supply (first + n))

variable (supply : ℕ → String) (first : ℕ)

lemma terminals_append (requests others : List SessionRequest) : terminals supply first (requests ++ others) =
    terminals supply first requests ++ terminals supply (first + requests.length) others := by
  simp only [terminals, List.mapIdx_append, Nat.add_comm, Nat.add_left_comm]

lemma terminals_anonymous (requests : List SessionRequest) :
    (terminals supply first requests).map Terminal.anonymous =
      requests.map fun request => request.terminal "" := by
  refine List.ext_getElem (by simp [terminals]) fun n _ _ => ?_
  simp only [terminals, List.getElem_map, List.getElem_mapIdx]
  rfl

end SessionRequest

namespace Registry

variable {registry : Registry} {caption : String} {named : Option String}

def Takes (registry : Registry) (caption : String) : Prop :=
  caption ∈ registry.captions ∨ caption ∈ registry.pending

instance (registry : Registry) (caption : String) : Decidable (registry.Takes caption) :=
  inferInstanceAs (Decidable (_ ∨ _))

def grant? (registry : Registry) (caption : String) : Option (Option String) :=
  if caption = "" then some none
  else if registry.Takes caption then none
  else some (some caption)

lemma createNamed_refused (h : registry.grant? caption = none) :
    registry.createNamed caption = registry.unchanged none := by
  rw [grant?] at h
  split_ifs at h with hc ht
  exact createNamed_taken hc ht

lemma createNamed_granted (h : registry.grant? caption = some named) :
    registry.createNamed caption = ((Edit.issue named).apply registry).start (some registry.nextSequence)
      (registry.freshRequest registry.nextSequence named) := by
  rw [grant?] at h
  split_ifs at h with hc ht <;> obtain rfl := Option.some.inj h
  · subst hc
    rfl
  · obtain ⟨hf, hp⟩ := not_or.mp ht
    exact createNamed_free hc hf hp

lemma terminal_granted (h : registry.grant? caption = some named) (sequence : UInt32) (handle : String) :
    (registry.freshRequest sequence named).terminal handle =
      (registry.freshRequest sequence (some caption)).terminal handle := by
  rw [grant?] at h
  split_ifs at h with hc <;> obtain rfl := Option.some.inj h
  · subst hc
    rfl
  · rfl

lemma takes_issue (named : Option String) :
    ((Edit.issue named).apply registry).Takes caption ↔ named = some caption ∨ registry.Takes caption := by
  have hc : ((Edit.issue named).apply registry).captions = registry.captions := rfl
  rw [Takes, hc, Edit.pending_apply, Takes]
  simp [Edit.Releases, or_left_comm]

lemma takes_store {terminal : Terminal} (hh : terminal.handle ∉ registry.handles)
    (ht : terminal.caption = caption → caption ∈ registry.pending) :
    (registry.store terminal).Takes caption ↔ registry.Takes caption := by
  have hp : caption ∈ (registry.store terminal).pending ↔
      caption ∈ registry.pending ∧ terminal.caption ≠ caption :=
    (Edit.store terminal).pending_apply.trans (by simp [Edit.Releases])
  rw [Takes, captions_store hh, hp, Takes, List.mem_append, List.mem_singleton]
  by_cases he : terminal.caption = caption
  · simp [he, ht he]
  · simp [he, Ne.symm he]

def granted (registry : Registry) : List String → List (Option UInt32)
  | [] => []
  | caption :: captions =>
    (registry.createNamed caption).answer :: (registry.createNamed caption).registry.granted captions

def opening? (registry : Registry) (caption : String) : Option SessionRequest :=
  (registry.createNamed caption).answer.map fun sequence => registry.freshRequest sequence (some caption)

def openings (registry : Registry) (captions : List String) : List SessionRequest :=
  (captions.zip (registry.granted captions)).filterMap fun opening =>
    opening.2.map fun sequence => registry.freshRequest sequence (some opening.1)

lemma createNamed_preferences (registry : Registry) (caption : String) :
    (registry.createNamed caption).registry.preferences = registry.preferences :=
  registry.perform_preferences (.createNamed caption)

lemma openings_cons (registry : Registry) (caption : String) (captions : List String) :
    registry.openings (caption :: captions) =
      (registry.opening? caption).toList ++ (registry.createNamed caption).registry.openings captions := by
  have hf : ∀ sequence named, (registry.createNamed caption).registry.freshRequest sequence named =
      registry.freshRequest sequence named := by
    intro sequence named
    rw [freshRequest, freshRequest, createNamed_preferences]
  simp only [openings, opening?, granted, List.zip_cons_cons, List.filterMap_cons, hf]
  cases (registry.createNamed caption).answer <;> rfl

end Registry

end TerminalSessions

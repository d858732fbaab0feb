import TerminalSessions.Proofs.Registry.Signals

namespace TerminalSessions

namespace Effect

lemma reapings_append (first later : List Effect) :
    reapings (first ++ later) = reapings first ++ reapings later :=
  List.filterMap_append

lemma reaped_append (first later : List Effect) : reaped (first ++ later) = reaped first ++ reaped later := by
  rw [reaped, reapings_append, List.map_append]
  rfl

lemma reapings_reap (registry : Registry) (handles : List String) :
    reapings (handles.map (.reap registry)) = handles.map (registry, ·) := by
  simp [reapings, List.filterMap_map]

lemma mem_reapings {effects : List Effect} {registry : Registry} {handle : String} :
    (registry, handle) ∈ reapings effects ↔ .reap registry handle ∈ effects := by
  rw [reapings, List.mem_filterMap]
  constructor
  · rintro ⟨effect, hm, he⟩
    cases effect with
    | reap => cases he; exact hm
    | busy | start => cases he
  · exact fun hm => ⟨_, hm, rfl⟩

end Effect

namespace Action

variable {registry : Registry} {actions : List Action}

lemma reapings_none (h : ∀ handle, .reap handle ∉ actions) :
    Effect.reapings (carryOut registry actions).effects = [] := by
  induction actions generalizing registry with
  | nil => rfl
  | cons action actions ih =>
    have ht : Effect.reapings (carryOut (action.apply registry) actions).effects = [] :=
      ih fun handle hm => h handle (List.mem_cons_of_mem _ hm)
    rw [carryOut, Step.andThen, Effect.reapings_append, ht, List.append_nil]
    cases action with
    | reap handle => exact absurd List.mem_cons_self (h handle)
    | edit | signal | start => rfl

lemma reap_not_mem_signalled (edits : List Edit) (handle : String) : .reap handle ∉ signalled edits := by
  simp [signalled]

end Action

namespace Operation

def reaps (registry : Registry) : Operation → List String
  | .close handle => if handle ∈ registry.handles then [handle] else []
  | .terminateAll => registry.handles
  | _ => []

def added : Operation → List String
  | .add terminal => [terminal.handle]
  | .restore saved => saved.map (·.handle)
  | _ => []

end Operation

namespace Registry

open TerminalSessions.Action

variable {registry : Registry} {operation : Operation} {handle : String}

lemma perform_reaps_first (registry : Registry) (operation : Operation) :
    ∃ others, (registry.perform operation).effects = (operation.reaps registry).map (.reap registry) ++ others ∧
      Effect.reapings others = [] := by
  have hquiet : ∀ {actions}, (∀ handle, .reap handle ∉ actions) → operation.actions registry = actions →
      Effect.reapings (registry.perform operation).effects = [] := fun h ha => by
    rw [perform_outside, ha]
    exact reapings_none h
  cases operation with
  | close handle =>
    simp only [perform, close, Operation.reaps, contains_iff]
    split_ifs
    · exact ⟨_, rfl, rfl⟩
    · exact ⟨[], rfl, rfl⟩
  | terminateAll =>
    rw [perform, terminateAll_eq]
    exact ⟨_, rfl, rfl⟩
  | notify notification =>
    cases notification with
    | subprocessesChanged =>
      refine ⟨_, rfl, hquiet (fun handle hm => ?_) rfl⟩
      rcases List.mem_append.mp hm with hm | hm
      · exact reap_not_mem_signalled _ _ hm
      · simp at hm
    | workingDirectoryChanged => exact ⟨_, rfl, hquiet (reap_not_mem_signalled _) rfl⟩
  | restore | retitle => exact ⟨_, rfl, hquiet (reap_not_mem_signalled _) rfl⟩
  | createNamed caption =>
    refine ⟨_, rfl, ?_⟩
    simp only [createNamed]
    split_ifs <;> rfl
  | reconnect handle =>
    refine ⟨_, rfl, ?_⟩
    simp only [reconnect]
    cases registry.find? handle <;> rfl
  | add | remove | createNew => exact ⟨_, rfl, rfl⟩

lemma perform_reapings (registry : Registry) (operation : Operation) :
    Effect.reapings (registry.perform operation).effects = (operation.reaps registry).map (registry, ·) := by
  obtain ⟨others, he, hn⟩ := perform_reaps_first registry operation
  rw [he, Effect.reapings_append, Effect.reapings_reap, hn, List.append_nil]

lemma perform_reaped (registry : Registry) (operation : Operation) :
    Effect.reaped (registry.perform operation).effects = operation.reaps registry := by
  rw [Effect.reaped, perform_reapings, List.map_map]
  exact List.map_id _

lemma performAll_reaped (registry : Registry) (operations : List Operation) :
    Effect.reaped (registry.performAll operations).effects =
      (registry.trace operations).flatMap fun step => step.2.reaps step.1 := by
  induction operations generalizing registry with
  | nil => rfl
  | cons operation operations ih =>
    rw [trace, List.flatMap_cons, ← ih, ← perform_reaped]
    exact Effect.reaped_append _ _

lemma mem_reaps : handle ∈ operation.reaps registry ↔
    handle ∈ registry.handles ∧ (operation = .close handle ∨ operation = .terminateAll) := by
  cases operation with
  | close closed =>
    rw [Operation.reaps]
    split_ifs with hc
    · simp only [List.mem_singleton, Operation.close.injEq, or_false]
      exact ⟨fun h => ⟨h ▸ hc, h.symm⟩, fun h => h.2.symm⟩
    · simp only [List.not_mem_nil, Operation.close.injEq, or_false, false_iff]
      rintro ⟨h, rfl⟩
      exact hc h
  | terminateAll => simp [Operation.reaps]
  | add | restore | remove | retitle | notify | createNew | createNamed | reconnect => simp [Operation.reaps]

lemma reaps_nodup (hn : registry.handles.Nodup) (operation : Operation) : (operation.reaps registry).Nodup := by
  cases operation with
  | close closed =>
    rw [Operation.reaps]
    split_ifs
    · exact List.nodup_singleton _
    · exact List.nodup_nil
  | terminateAll => exact hn
  | add | restore | remove | retitle | notify | createNew | createNamed | reconnect => exact List.nodup_nil

lemma reaps_forgotten (hn : registry.handles.Nodup) (h : handle ∈ operation.reaps registry) :
    handle ∉ (registry.perform operation).registry.handles := by
  obtain ⟨-, rfl | rfl⟩ := mem_reaps.mp h
  · change handle ∉ (registry.close handle).registry.handles
    rw [close_registry, handles, erase, Terminals.handles_erase]
    exact hn.not_mem_erase
  · exact List.not_mem_nil

lemma registered_perform (h : handle ∈ (registry.perform operation).registry.handles) :
    handle ∈ registry.handles ∨ handle ∈ operation.added := by
  rw [handles, perform_terminals] at h
  rcases Change.handles_foldl h with h | ⟨terminal, hm, rfl⟩
  · exact .inl h
  · refine .inr ?_
    cases operation with
    | add added =>
      obtain rfl := Change.put.inj (List.mem_singleton.mp hm)
      exact List.mem_singleton_self _
    | restore saved =>
      obtain ⟨first, hs, he⟩ := List.mem_map.mp hm
      obtain rfl := Change.put.inj he
      exact List.mem_map_of_mem hs
    | notify notification => cases notification <;> simp [Operation.changes] at hm
    | remove | close | terminateAll | retitle | createNew | createNamed | reconnect =>
      simp [Operation.changes] at hm

lemma unregistered_performAll {operations : List Operation} (h : handle ∉ registry.handles)
    (ha : ∀ step ∈ registry.trace operations, handle ∉ step.2.added) :
    handle ∉ (registry.performAll operations).registry.handles := by
  induction operations generalizing registry with
  | nil => exact h
  | cons operation operations ih =>
    refine ih (fun hm => ?_) fun step hm => ha step (List.mem_cons_of_mem _ hm)
    exact (registered_perform hm).elim h (ha _ List.mem_cons_self)

lemma unregistered_since {operations : List Operation} {earlier between : List (Registry × Operation)}
    {step : Registry × Operation} (ht : registry.trace operations = earlier ++ step :: between)
    (h : handle ∉ (step.1.perform step.2).registry.handles) (ha : ∀ step ∈ between, handle ∉ step.2.added) :
    handle ∉ (registry.performAll operations).registry.handles := by
  induction earlier generalizing registry operations with
  | nil =>
    cases operations with
    | nil => cases ht
    | cons operation operations =>
      obtain ⟨rfl, rfl⟩ := List.cons.inj ht
      change handle ∉ ((registry.perform operation).registry.performAll operations).registry.handles
      exact unregistered_performAll h ha
  | cons first earlier ih =>
    cases operations with
    | nil => cases ht
    | cons operation operations =>
      change handle ∉ ((registry.perform operation).registry.performAll operations).registry.handles
      exact ih (List.cons.inj ht).2

/-- In a run from an empty registry each close of a known terminal reaps its handle, terminating all reaps the
registered handles in their order, and nothing else is reaped. A handle is registered when it is reaped, and the
operation that reaps it, once, leaves it unregistered. When it is reaped again, it was added in between. -/
theorem reaped_follows_history (preferences : Preferences) (operations : List Operation) :
    let trace := (empty preferences).trace operations
    Effect.reaped ((empty preferences).performAll operations).effects =
        trace.flatMap (fun (registry, operation) => operation.reaps registry) ∧
      (∀ registry operation, (registry, operation) ∈ trace →
        (∃ others, (registry.perform operation).effects = (operation.reaps registry).map (.reap registry) ++ others ∧
          Effect.reapings others = []) ∧
          (operation.reaps registry).Nodup ∧
          ∀ moment handle, .reap moment handle ∈ (registry.perform operation).effects →
            handle ∈ moment.handles ∧ handle ∉ (registry.perform operation).registry.handles) ∧
      ∀ earlier first between second later handle,
        trace = earlier ++ first :: between ++ second :: later → handle ∈ first.2.reaps first.1 →
          handle ∈ second.2.reaps second.1 → ∃ step ∈ between, handle ∈ step.2.added := by
  intro trace
  have hnodup : ∀ registry operation, (registry, operation) ∈ trace → registry.handles.Nodup := by
    intro registry operation hm
    obtain ⟨earlier, later, ht⟩ := List.append_of_mem hm
    obtain ⟨performed, -, rfl⟩ := trace_split ht
    exact performAll_nodup _ performed List.nodup_nil
  refine ⟨performAll_reaped _ operations, fun registry operation hm => ?_, ?_⟩
  · have hn := hnodup registry operation hm
    refine ⟨perform_reaps_first registry operation, reaps_nodup hn operation, fun moment handle hp => ?_⟩
    rw [← Effect.mem_reapings, perform_reapings] at hp
    obtain ⟨_, hr, he⟩ := List.mem_map.mp hp
    obtain ⟨rfl, rfl⟩ := Prod.mk.inj he
    exact ⟨(mem_reaps.mp hr).1, reaps_forgotten hn hr⟩
  · intro earlier first between second later handle ht hf hs
    -- otherwise the handle, which the first reaping leaves unregistered, is so until the second one
    by_contra hn
    push Not at hn
    have hm : first ∈ trace := by
      rw [ht]
      simp
    obtain ⟨performed, hp, hr⟩ := trace_split ht
    have hu := unregistered_since hp (reaps_forgotten (hnodup _ _ hm) hf) hn
    rw [hr] at hu
    exact hu (mem_reaps.mp hs).1

theorem reaped_follows_history_added :
    let terminal : Terminal := { handle := "a", sequence := 1 }
    let operations := [.restore [{ handle := "a", sequence := 1 }, { handle := "b", sequence := 2 }], .close "a",
      .close "a", .add terminal, .retitle "a" "t", .close "a", .add terminal, .terminateAll]
    let effects := ((empty {}).performAll operations).effects
    let trace := (empty {}).trace operations
    Effect.reaped effects = ["a", "a", "b", "a"] ∧
      (Effect.reapings effects).map (·.1.handles) = [["a", "b"], ["b", "a"], ["b", "a"], ["b", "a"]] ∧
        ∃ step ∈ (trace.drop 2).take 3, "a" ∈ step.2.added := by
  intro terminal operations effects trace
  obtain ⟨hr, -, hb⟩ := reaped_follows_history {} operations
  refine ⟨hr.trans (by decide), by decide, ?_⟩
  exact hb (trace.take 1) _ ((trace.drop 2).take 3) _ (trace.drop 6) "a" rfl (by decide) (by decide)

end Registry

end TerminalSessions

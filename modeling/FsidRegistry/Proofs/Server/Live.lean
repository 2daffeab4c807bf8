import FsidRegistry.Proofs.Dictionary
import FsidRegistry.Proofs.Server.Step

/-!
# The live connections of a server

A connection enters the tracker when it is accepted, and its task takes it out as one of its last
steps.  `Tracked` says that the tracker and the tasks agree at every moment in between:

* `live`: the tracker holds exactly the connections whose task has not left it, each once.
* `numbered`: no number is given twice.
* `created`, `alone`: an accept loop that is about to start a task is the only one to do so, and
  the task has made no step.

`Reachable.tracked` is the invariant for every run.  Since new connections get new numbers and only a
task that waits for its start is started, the invariant also says all that a step can do to one
connection: `Moves`, `Step.moves`.
-/

namespace FsidRegistry

/-- Whether the task of a connection has left the tracker. -/
def ConnectionPhase.hasLeft {η : Type} : ConnectionPhase η → Bool
  | .notifying | .ended => true
  | _ => false

/-- A task that makes a step of its loop has been started and has not left the tracker. -/
theorem Connection.Step.stays {η : Type} {table : HandlerTable η} {c d : Connection η}
    {e : ConnectionEvent} (h : c.Step table e d) :
    c.phase ≠ .created ∧ c.phase.hasLeft = false ∧ d.phase.hasLeft = false := by
  cases h with
  | tests h | polls h | writes _ _ h =>
    rw [h]
    dsimp only
    refine ⟨by rintro ⟨⟩, rfl, ?_⟩
    split <;> rfl
  | receives packet h =>
    rw [h]
    dsimp only [phaseAfter]
    refine ⟨by rintro ⟨⟩, rfl, ?_⟩
    split
    · rfl
    · split <;> rfl
  | receiveFails h | receiveWaits h | flags h | shuts h | cancels h =>
    rw [h]
    exact ⟨by rintro ⟨⟩, rfl, rfl⟩
  | writeFails _ h | writeGivesUp _ h | faults _ _ h | answers _ _ _ h =>
    rw [h]
    exact ⟨by rintro ⟨⟩, rfl, rfl⟩

namespace Server

variable {η : Type} {s t : Server η}

/-- Where the task of a connection stands. -/
def phase? (s : Server η) (id : ConnectionId) : Option (ConnectionPhase η) :=
  (s.connections.get? id).map (·.phase)

theorem phase?_of_get? {id : ConnectionId} {c : Connection η} (h : s.connections.get? id = some c) :
    s.phase? id = some c.phase := by
  rw [phase?, h, Option.map_some]

theorem phase?_insert {id : ConnectionId} {d : Connection η}
    (ht : t.connections = s.connections.insert id d) (i : ConnectionId) :
    t.phase? i = if id = i then some d.phase else s.phase? i := by
  rw [phase?, ht, Dictionary.get?_insert]
  by_cases hi : id = i
  · rw [if_pos hi, if_pos hi, Option.map_some]
  · rw [if_neg hi, if_neg hi, phase?]

theorem phase?_modify {id : ConnectionId} {f : Connection η → Connection η}
    (ht : t.connections = s.connections.modify id f) (hf : ∀ c, (f c).phase = c.phase) :
    t.phase? = s.phase? := by
  funext i
  rw [phase?, phase?, ht, Dictionary.get?_modify]
  split
  · rw [Option.map_map, Function.comp_def]
    simp only [hf]
  · rfl

/-- The tracker and the tasks agree. -/
structure Tracked (s : Server η) : Prop where
  numbered : ∀ id p, s.phase? id = some p → id ≤ s.lastId
  live : ∀ id, id ∈ s.tracker.live ↔ ∃ p, s.phase? id = some p ∧ p.hasLeft = false
  nodup : s.tracker.live.Nodup
  created : ∀ loop id, s.serves.get? loop = some (.spawning id) → s.phase? id = some .created
  alone : ∀ loop loop' id, s.serves.get? loop = some (.spawning id) →
    s.serves.get? loop' = some (.spawning id) → loop = loop'

theorem Tracked.known (h : Tracked s) :
    ∀ id ∈ s.tracker.live, ∃ c, s.connections.get? id = some c := by
  intro id hid
  obtain ⟨p, hp, _⟩ := (h.live id).mp hid
  obtain ⟨c, hc, _⟩ := Option.map_eq_some_iff.mp hp
  exact ⟨c, hc⟩

/-- The phases after the one of connection `id` has become `q`. -/
def MovesTo (s t : Server η) (id : ConnectionId) (q : ConnectionPhase η) : Prop :=
  ∀ i, t.phase? i = if id = i then some q else s.phase? i

/-- A step that concerns neither the tasks nor the starting of tasks. -/
theorem Tracked.of_same (h : Tracked s) (hp : t.phase? = s.phase?)
    (hlive : t.tracker.live = s.tracker.live) (hid : s.lastId ≤ t.lastId)
    (hs : ∀ loop id, t.serves.get? loop = some (.spawning id) →
      s.serves.get? loop = some (.spawning id)) : Tracked t := by
  refine ⟨fun id p hi => ?_, fun id => ?_, hlive ▸ h.nodup, fun loop id hl => ?_,
    fun l l' id hl hl' => h.alone l l' id (hs l id hl) (hs l' id hl')⟩
  · rw [hp] at hi
    exact Nat.le_trans (h.numbered id p hi) hid
  · rw [hp, hlive]
    exact h.live id
  · rw [hp]
    exact h.created loop id (hs loop id hl)

/-- A step in which the task of one connection moves on. -/
theorem Tracked.of_movesTo (h : Tracked s) {id : ConnectionId} {p q : ConnectionPhase η}
    (hp : s.phase? id = some p) (hq : MovesTo s t id q)
    (hlive : ∀ i, i ∈ t.tracker.live ↔ if id = i then q.hasLeft = false else i ∈ s.tracker.live)
    (hnodup : t.tracker.live.Nodup) (hid : t.lastId = s.lastId)
    (hs : ∀ loop i, t.serves.get? loop = some (.spawning i) →
      s.serves.get? loop = some (.spawning i) ∧ id ≠ i) : Tracked t := by
  refine ⟨fun i r hi => ?_, fun i => ?_, hnodup, fun loop i hl => ?_,
    fun l l' i hl hl' => h.alone l l' i (hs l i hl).1 (hs l' i hl').1⟩
  · rw [hq i] at hi
    rw [hid]
    split at hi
    · rename_i he
      exact h.numbered i p (he ▸ hp)
    · exact h.numbered i r hi
  · rw [hq i, hlive i]
    split
    · exact ⟨fun hl => ⟨q, rfl, hl⟩, by rintro ⟨r, hr, hl⟩; exact Option.some.inj hr ▸ hl⟩
    · exact h.live i
  · obtain ⟨hl, hne⟩ := hs loop i hl
    rw [hq i, if_neg hne]
    exact h.created loop i hl

theorem spawning_insert {loop : Nat} {p : ServePhase} (ht : t.serves = s.serves.insert loop p)
    (hp : ∀ id, p ≠ .spawning id) :
    ∀ l id, t.serves.get? l = some (.spawning id) → s.serves.get? l = some (.spawning id) := by
  intro l id hl
  rw [ht, Dictionary.get?_insert] at hl
  split at hl
  · exact absurd (Option.some.inj hl) (hp id)
  · exact hl

theorem Tracked.tracks (h : Tracked s) (loop : Nat) (stream : SocketId) :
    Tracked ({ s with
      lastId := s.lastId + 1
      tracker := { s.tracker with live := s.tracker.live ++ [s.lastId + 1] }
      connections := s.connections.insert (s.lastId + 1) { stream } }.setServe loop
        (.spawning (s.lastId + 1))) := by
  have hfresh : ∀ p, s.phase? (s.lastId + 1) ≠ some p := by
    intro p hp
    exact Nat.not_succ_le_self _ (h.numbered _ p hp)
  have hold : ∀ l id, s.serves.get? l = some (.spawning id) → s.lastId + 1 ≠ id := by
    rintro l _ hl rfl
    exact hfresh _ (h.created l _ hl)
  refine ⟨fun id p hi => ?_, fun id => ?_, ?_, fun l id hl => ?_, fun l l' id hl hl' => ?_⟩
  · rw [phase?_insert (s := s) rfl] at hi
    show id ≤ s.lastId + 1
    split at hi
    · rename_i he
      exact Nat.le_of_eq he.symm
    · exact Nat.le_succ_of_le (h.numbered id p hi)
  · rw [phase?_insert (s := s) rfl]
    show id ∈ s.tracker.live ++ [s.lastId + 1] ↔ _
    rw [List.mem_append, List.mem_singleton, h.live id]
    by_cases hi : s.lastId + 1 = id
    · rw [if_pos hi]
      exact ⟨fun _ => ⟨_, rfl, rfl⟩, fun _ => Or.inr hi.symm⟩
    · rw [if_neg hi]
      exact ⟨fun h => h.resolve_right fun he => hi he.symm, Or.inl⟩
  · refine List.nodup_append.mpr ⟨h.nodup, by simp, ?_⟩
    intro a ha b hb hab
    obtain ⟨p, hp, _⟩ := (h.live a).mp ha
    rw [hab, List.mem_singleton.mp hb] at hp
    exact hfresh p hp
  · rw [phase?_insert (s := s) rfl]
    rw [setServe_serves, Dictionary.get?_insert] at hl
    split at hl
    · injection hl with hl
      injection hl with hl
      exact if_pos hl
    · rw [if_neg (hold l id hl)]
      exact h.created l id hl
  · -- Two loops that start the same task: neither is this one, whose task is new, or both are.
    rw [setServe_serves, Dictionary.get?_insert] at hl hl'
    by_cases h1 : loop = l <;> by_cases h2 : loop = l'
    · exact h1.symm.trans h2
    · rw [if_pos h1] at hl
      rw [if_neg h2] at hl'
      injection hl with hl
      injection hl with hl
      exact absurd hl (hold l' id hl')
    · rw [if_neg h1] at hl
      rw [if_pos h2] at hl'
      injection hl' with hl'
      injection hl' with hl'
      exact absurd hl' (hold l id hl)
    · rw [if_neg h1] at hl
      rw [if_neg h2] at hl'
      exact h.alone l l' id hl hl'

theorem ServeStep.tracked {loop : Nat} {p : ServePhase} {e : ServeEvent} (h : Tracked s)
    (hp : s.serves.get? loop = some p) (hstep : ServeStep s loop p e t) : Tracked t := by
  cases hstep with
  | tracks stream => exact h.tracks loop stream
  | turnedAway =>
    exact h.of_same rfl rfl (Nat.le_succ _) (spawning_insert rfl fun _ he => by cases he)
  | polls =>
    refine h.of_same rfl rfl (Nat.le_refl _) (spawning_insert rfl fun id => ?_)
    split <;> rintro ⟨⟩
  | spawns id =>
    have hc := h.created loop id hp
    obtain ⟨c, hc', -⟩ := Option.map_eq_some_iff.mp hc
    refine h.of_movesTo (q := .testing) hc (fun i => ?_) (fun i => ?_) h.nodup rfl fun l i hl => ?_
    · rw [phase?, setServe_connections, Dictionary.get?_modify]
      split
      · rename_i he
        rw [← he, hc']
        rfl
      · rfl
    · split
      · rename_i he
        exact ⟨fun _ => rfl, fun _ => (h.live i).mpr ⟨_, he ▸ hc, rfl⟩⟩
      · rfl
    · rw [setServe_serves, Dictionary.get?_insert] at hl
      split at hl
      · cases hl
      · rename_i hne
        exact ⟨hl, fun he => hne (h.alone loop l id hp (he ▸ hl))⟩
  | _ => exact h.of_same rfl rfl (Nat.le_refl _) (spawning_insert rfl fun _ he => by cases he)

theorem StopStep.tracked {n : Nat} {stop : Stop} {e : StopEvent} (h : Tracked s)
    (hstep : StopStep s n stop e t) : Tracked t := by
  cases hstep with
  | flags id | cancels id =>
    exact h.of_same (phase?_modify rfl fun _ => rfl) rfl (Nat.le_refl _) fun _ _ h => h
  | _ => exact h.of_same rfl rfl (Nat.le_refl _) fun _ _ h => h

/-- The task of a connection that has been started moves on. -/
theorem Tracked.of_insert (h : Tracked s) {id : ConnectionId} {c d : Connection η}
    (hc : s.connections.get? id = some c) (hcreated : c.phase ≠ .created)
    (ht : t.connections = s.connections.insert id d)
    (hlive : ∀ i, i ∈ t.tracker.live ↔
      if id = i then d.phase.hasLeft = false else i ∈ s.tracker.live)
    (hnodup : t.tracker.live.Nodup) (hid : t.lastId = s.lastId) (hs : t.serves = s.serves) :
    Tracked t := by
  refine h.of_movesTo (phase?_of_get? hc) (phase?_insert ht) hlive hnodup hid fun l i hl => ?_
  rw [hs] at hl
  refine ⟨hl, fun he => hcreated ?_⟩
  have := h.created l i hl
  rw [← he, phase?_of_get? hc] at this
  exact Option.some.inj this

theorem Step.tracked {e : ServerEvent} (h : Tracked s) (hstep : Step s e t) : Tracked t := by
  cases hstep with
  | beginServe =>
    exact h.of_same rfl rfl (Nat.le_refl _) (spawning_insert rfl fun _ he => by cases he)
  | serve _ _ _ _ hp hstep => exact hstep.tracked h hp
  | stop _ _ _ _ _ hstep => exact hstep.tracked h
  | beginStop => exact h.of_same rfl rfl (Nat.le_refl _) fun _ _ h => h
  | connection id c d e hc hstep =>
    obtain ⟨hcreated, hleft, hleft'⟩ := hstep.stays
    refine h.of_insert hc hcreated rfl (fun i => ?_) h.nodup rfl rfl
    split
    · rename_i he
      exact ⟨fun _ => hleft', fun _ => (h.live i).mpr ⟨_, he ▸ phase?_of_get? hc, hleft⟩⟩
    · rfl
  | untracks id c hc hp =>
    refine h.of_insert hc (by rw [hp]; rintro ⟨⟩) rfl (fun i => ?_) (h.nodup.filter _) rfl rfl
    show i ∈ s.tracker.live.filter (· != id) ↔ if id = i then true = false else i ∈ s.tracker.live
    rw [List.mem_filter, bne_iff_ne]
    split
    · rename_i he
      exact ⟨fun hi => absurd he.symm hi.2, by rintro ⟨⟩⟩
    · rename_i hne
      exact ⟨And.left, fun hi => ⟨hi, fun he => hne he.symm⟩⟩
  | announces id c hc hp =>
    refine h.of_insert hc (by rw [hp]; rintro ⟨⟩) rfl (fun i => ?_) h.nodup rfl rfl
    show i ∈ s.tracker.live ↔ if id = i then true = false else i ∈ s.tracker.live
    split
    · rename_i he
      refine ⟨fun hi => ?_, by rintro ⟨⟩⟩
      obtain ⟨p, hp', hl⟩ := (h.live i).mp hi
      rw [← he, phase?_of_get? hc, hp] at hp'
      cases hp'
      cases hl
    · rfl

theorem tracked_new (listener : Listener) (handlers : HandlerTable η) :
    Tracked ({ listener, handlers } : Server η) where
  numbered id p hp := by cases hp
  live id := by
    constructor
    · intro hid
      cases hid
    · rintro ⟨p, hp, _⟩
      cases hp
  nodup := List.nodup_nil
  created loop id hs := by cases hs
  alone loop loop' id hs := by cases hs

/-- **The tracker holds the connections whose task has not left it, each once**, whatever the
tasks have done. -/
theorem Reachable.tracked (h : Reachable s) : Tracked s := by
  obtain ⟨listener, handlers, h⟩ := h
  induction h with
  | refl => exact tracked_new listener handlers
  | tail _ hn ih =>
    obtain ⟨e, he⟩ := hn
    exact (step?_eq_some_iff.mp he).tracked ih

/-! ## One connection -/

/-- What a step of the server makes of connection `id`. -/
inductive Moves (table : HandlerTable η) (id : ConnectionId) (c : Connection η) :
    ServerEvent → Connection η → Prop
  | steps (e : ConnectionEvent) (d : Connection η) (h : c.Step table e d) :
    Moves table id c (.connection id e) d
  | starts (loop : Nat) (h : c.phase = .created) :
    Moves table id c (.serve loop .spawns) { c with phase := .testing }
  | untracks (h : c.phase = .untracking) :
    Moves table id c (.untracks id) { c with phase := .notifying }
  | announces (h : c.phase = .notifying) :
    Moves table id c (.announces id) { c with phase := .ended }
  | flags (n : Nat) : Moves table id c (.stop n .flags) { c with inShutdown := true }
  | cancels (n : Nat) : Moves table id c (.stop n .cancels) { c with cancelled := true }
  | stays (e : ServerEvent) (h : ∀ e', e ≠ .connection id e') : Moves table id c e c

variable {id : ConnectionId} {c : Connection η}

theorem ServeStep.moves {loop : Nat} {p : ServePhase} {e : ServeEvent} (h : Tracked s)
    (hp : s.serves.get? loop = some p) (hstep : ServeStep s loop p e t)
    (hc : s.connections.get? id = some c) :
    ∃ d, t.connections.get? id = some d ∧ Moves s.handlers id c (.serve loop e) d := by
  have hstays : Moves s.handlers id c (.serve loop e) c := .stays _ fun _ he => by cases he
  cases hstep with
  | tracks stream =>
    refine Dictionary.exists_get?_insert hc (fun he => ?_) fun _ => hstays
    exact absurd (he ▸ h.numbered id _ (phase?_of_get? hc)) (Nat.not_succ_le_self _)
  | spawns i =>
    refine Dictionary.exists_get?_modify hc (fun he => ?_) fun _ => hstays
    have hcreated := h.created loop i hp
    rw [he, phase?_of_get? hc] at hcreated
    exact .starts loop (Option.some.inj hcreated)
  | _ => exact ⟨c, hc, hstays⟩

theorem StopStep.moves {n : Nat} {stop : Stop} {e : StopEvent} (hstep : StopStep s n stop e t)
    (hc : s.connections.get? id = some c) :
    ∃ d, t.connections.get? id = some d ∧ Moves s.handlers id c (.stop n e) d := by
  have hstays : Moves s.handlers id c (.stop n e) c := .stays _ fun _ he => by cases he
  cases hstep with
  | flags i => exact Dictionary.exists_get?_modify hc (fun _ => .flags n) fun _ => hstays
  | cancels i => exact Dictionary.exists_get?_modify hc (fun _ => .cancels n) fun _ => hstays
  | _ => exact ⟨c, hc, hstays⟩

/-- **No connection is ever lost, and a step moves it in one of seven ways.** -/
theorem Step.moves {e : ServerEvent} (h : Tracked s) (hstep : Step s e t)
    (hc : s.connections.get? id = some c) :
    ∃ d, t.connections.get? id = some d ∧ Moves s.handlers id c e d := by
  cases hstep with
  | beginServe | beginStop => exact ⟨c, hc, .stays _ fun _ he => by cases he⟩
  | serve _ _ _ _ hp hstep => exact hstep.moves h hp hc
  | stop _ _ _ _ _ hstep => exact hstep.moves hc
  | connection i c' d e hc' hstep =>
    refine Dictionary.exists_get?_insert hc (fun hi => ?_) fun hi => .stays _ fun _ he => ?_
    · subst hi
      obtain rfl := Option.some.inj (hc.symm.trans hc')
      exact .steps e d hstep
    · injection he with he
      exact hi he
  | untracks i c' hc' hp =>
    refine Dictionary.exists_get?_insert hc (fun hi => ?_) fun _ => .stays _ fun _ he => by cases he
    subst hi
    obtain rfl := Option.some.inj (hc.symm.trans hc')
    exact .untracks hp
  | announces i c' hc' hp =>
    refine Dictionary.exists_get?_insert hc (fun hi => ?_) fun _ => .stays _ fun _ he => by cases he
    subst hi
    obtain rfl := Option.some.inj (hc.symm.trans hc')
    exact .announces hp

end Server

end FsidRegistry

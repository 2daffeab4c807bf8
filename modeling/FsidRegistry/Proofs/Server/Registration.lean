import FsidRegistry.Proofs.Dictionary
import FsidRegistry.Proofs.Server.Drain
import FsidRegistry.Proofs.Server.Treatment

/-!
# Which handlers are registered, and which are reached

A life of a server is everything that happens to it from its start on: handlers are registered or
refused, and its tasks make their steps.  Whoever registers a handler has the server for themselves,
and an accept loop gives way only where it waits, so no loop stands between its entry and the
freezing of the handler table then (`IsFree`).

* `Life.recorded`: the table holds the accepted registrations and nothing else, and it is frozen once
  an accept loop is past its entry.
* `Refuses`: why a registration is refused, told by what happened before it; `Life.refuses` says that
  it is refused for these reasons and for no other.
* `Life.sharesFrozen`: the table is shared with connections only when it is frozen, so a registration
  needs no second look at who else holds it.
* `Request.dispatch_spaced`: a request is for the word before its first space.  So the handler of a
  verb is called for every request that is made of the verb, unless the verb has a space itself, and
  then for none of them (`registered_verbs_are_reached_unless_spaced`).
-/

namespace FsidRegistry

/-! ## Requests made of a verb -/

namespace Request

variable {η : Type} {table : HandlerTable η} {verb argument : String} {handler : η}

/-- A request is for the word before its first space, with all that follows as the argument. -/
theorem dispatch_spaced (hv : ' ' ∉ verb.toList)
    (hsize : (Text.encode (verb ++ " " ++ argument)).size ≤ 8192) :
    dispatch table (Text.encode (verb ++ " " ++ argument)) =
      match table.get? (Text.uppercase verb) with
      | some handler => .call handler argument
      | none => .respond (.err ("unknown command " ++ Text.quoted (Text.uppercase verb))) := by
  have hline := Text.decode?_encode (verb ++ " " ++ argument)
  have hsplit := split_spaced hv argument
  cases hget : table.get? (Text.uppercase verb) with
  | none => exact dispatch_unknown hsize hline hsplit hget
  | some handler => exact dispatch_known hsize hline hsplit hget

/-- No handler is called with the argument of a request whose verb has a space: the argument then
begins in the verb. -/
theorem dispatch_ne_call_of_space (hv : ' ' ∈ verb.toList)
    (hsize : (Text.encode (verb ++ " " ++ argument)).size ≤ 8192) (handler : η) :
    dispatch table (Text.encode (verb ++ " " ++ argument)) ≠ .call handler argument := by
  obtain ⟨cs, ds, hverb, hword⟩ := List.eq_append_cons_of_mem hv
  have hline : verb ++ " " ++ argument =
      String.ofList cs ++ " " ++ (String.ofList ds ++ " " ++ argument) := by
    refine String.toList_inj.mp ?_
    simp [hverb]
  rw [hline] at hsize ⊢
  rw [dispatch_spaced (by simpa using hword) hsize]
  intro hcall
  cases hget : table.get? (Text.uppercase (String.ofList cs)) with
  | none => simp [hget] at hcall
  | some other =>
    rw [hget] at hcall
    simp only [Dispatch.call.injEq] at hcall
    have hlength := congrArg String.length hcall.2
    simp [String.length_append] at hlength

/-- The handler of a verb is called for the requests made of the verb just if the verb is one word. -/
theorem dispatch_eq_call_iff (hget : table.get? (Text.uppercase verb) = some handler)
    (hsize : (Text.encode (verb ++ " " ++ argument)).size ≤ 8192) :
    dispatch table (Text.encode (verb ++ " " ++ argument)) = .call handler argument ↔
      ' ' ∉ verb.toList := by
  constructor
  · intro hcall hv
    exact dispatch_ne_call_of_space hv hsize handler hcall
  · intro hv
    rw [dispatch_spaced hv hsize, hget]

end Request

/-- The accept loop has frozen the handler table and can still accept. -/
def ServePhase.isUnderway : ServePhase → Bool
  | .polling | .accepting | .tracking _ | .spawning _ => true
  | _ => false

namespace Server

variable {η : Type} {listener : Listener} {s t : Server η}

/-! ## Lives of servers -/

/-- What happens to a server. -/
inductive LifeEvent (η : Type)
  /-- A handler is registered for a verb. -/
  | registered (verb : String) (handler : η)
  /-- A registration is refused. -/
  | refused (verb : String) (handler : η) (fault : Fault)
  /-- A task makes a step. -/
  | stepped (e : ServerEvent)

/-- No accept loop stands between its entry and the freezing of the handler table. -/
def IsFree (s : Server η) : Prop := ∀ loop, s.serves.get? loop ≠ some .marking

/-- What can happen to a server.  A registration that is refused leaves it as it was. -/
inductive Lives (s : Server η) : LifeEvent η → Server η → Prop
  | registered (verb : String) (handler : η) (t : Server η) (hfree : s.IsFree)
      (h : s.register verb handler = .ok t) : Lives s (.registered verb handler) t
  | refused (verb : String) (handler : η) (fault : Fault) (hfree : s.IsFree)
      (h : s.register verb handler = .error fault) : Lives s (.refused verb handler fault) s
  | stepped (e : ServerEvent) (t : Server η) (h : s.step? e = some t) : Lives s (.stepped e) t

/-- The life of a new server up to some time. -/
inductive Life (listener : Listener) : List (LifeEvent η) → Server η → Prop
  | new : Life listener [] { listener }
  | snoc {es : List (LifeEvent η)} {e : LifeEvent η} {s t : Server η} (h : Life listener es s)
      (hlives : Lives s e t) : Life listener (es ++ [e]) t

/-- A stop has begun. -/
def StopBegun (es : List (LifeEvent η)) : Prop := ∃ n, .stepped (.stop n .marks) ∈ es

/-- Serving has started: an accept loop has entered before any stop began. -/
def Started (es : List (LifeEvent η)) : Prop :=
  ∃ before loop after, es = before ++ .stepped (.serve loop .enters) :: after ∧ ¬ StopBegun before

/-- Why a registration is refused that comes after some events. -/
inductive Refuses (before : List (LifeEvent η)) (verb : String) : Fault → Prop
  | empty (hv : verb = "") : Refuses before verb .emptyVerb
  | serving (hv : verb ≠ "") (hs : Started before) :
    Refuses before verb (.alreadyServing (Text.uppercase verb))
  | taken (other : String) (handler : η) (hv : verb ≠ "") (hs : ¬ Started before)
      (ho : .registered other handler ∈ before)
      (heq : Text.uppercase other = Text.uppercase verb) :
    Refuses before verb (.verbTaken (Text.uppercase verb))

variable {es before after : List (LifeEvent η)} {verb : String} {handler : η} {fault : Fault}

/-! ## One registration -/

/-- What comes of a registration. -/
theorem register_cases (s : Server η) (verb : String) (handler : η) :
    (verb = "" ∧ s.register verb handler = .error .emptyVerb) ∨
    (verb ≠ "" ∧ s.serving = true ∧
      s.register verb handler = .error (.alreadyServing (Text.uppercase verb))) ∨
    (verb ≠ "" ∧ s.serving = false ∧ s.handlers.get? (Text.uppercase verb) ≠ none ∧
      s.register verb handler = .error (.verbTaken (Text.uppercase verb))) ∨
    (verb ≠ "" ∧ s.serving = false ∧ s.handlers.get? (Text.uppercase verb) = none ∧
      s.register verb handler =
        .ok { s with handlers := s.handlers.insert (Text.uppercase verb) handler }) := by
  have hempty : (Text.uppercase verb).isEmpty = true ↔ verb = "" := by
    rw [String.isEmpty_iff, Text.uppercase_eq_empty_iff]
  rw [register, HandlerTable.register]
  by_cases hv : verb = ""
  · rw [if_pos (hempty.mpr hv)]
    exact Or.inl ⟨hv, rfl⟩
  rw [if_neg (mt hempty.mp hv)]
  by_cases hs : s.serving = true
  · rw [if_pos hs]
    exact Or.inr (Or.inl ⟨hv, hs, rfl⟩)
  rw [if_neg hs]
  have hs' : s.serving = false := eq_false_of_ne_true hs
  by_cases hg : s.handlers.contains (Text.uppercase verb) = true
  · rw [if_pos hg]
    exact Or.inr (Or.inr (Or.inl ⟨hv, hs', fun hnone =>
      Dictionary.contains_eq_false_iff.mpr hnone hg, rfl⟩))
  · rw [if_neg hg]
    exact Or.inr (Or.inr (Or.inr ⟨hv, hs', Dictionary.contains_eq_false_iff.mp hg, rfl⟩))

theorem register_eq_ok_iff : s.register verb handler = .ok t ↔
    verb ≠ "" ∧ s.serving = false ∧ s.handlers.get? (Text.uppercase verb) = none ∧
      t = { s with handlers := s.handlers.insert (Text.uppercase verb) handler } := by
  rcases register_cases s verb handler with
    ⟨hv, hx⟩ | ⟨-, hs, hx⟩ | ⟨-, -, htaken, hx⟩ | ⟨hv, hs, hnone, hx⟩
  · rw [hx]
    simp [hv]
  · simp [hx, hs]
  · simp [hx, htaken]
  · simp [hx, hv, hs, hnone, eq_comm]

/-! ## The start of serving -/

/-- The handler table is frozen, or is about to be. -/
def HasStarted (s : Server η) : Prop :=
  s.serving = true ∨ ∃ loop, s.serves.get? loop = some .marking

theorem IsFree.serving_of_hasStarted (hfree : s.IsFree) (h : s.HasStarted) : s.serving = true := by
  rcases h with h | ⟨loop, h⟩
  · exact h
  · exact absurd h (hfree loop)

/-- A step between phases that are not about to freeze the table. -/
theorem hasStarted_insert {loop : Nat} {p q : ServePhase} (hp : s.serves.get? loop = some p)
    (hserving : t.serving = s.serving) (ht : t.serves = s.serves.insert loop q)
    (hpm : p ≠ .marking) (hqm : q ≠ .marking) : t.HasStarted ↔ s.HasStarted := by
  have hmarking : ∀ l, t.serves.get? l = some .marking ↔ s.serves.get? l = some .marking := by
    intro l
    rw [ht, Dictionary.get?_insert]
    by_cases hl : loop = l
    · subst hl
      simp [hp, hpm, hqm]
    · rw [if_neg hl]
  simp only [HasStarted, hserving, hmarking]

theorem ServeStep.hasStarted {loop : Nat} {p : ServePhase} {e : ServeEvent}
    (hp : s.serves.get? loop = some p) (h : ServeStep s loop p e t) :
    t.HasStarted ↔ s.HasStarted ∨ (e = .enters ∧ s.tracker.inShutdown = false) := by
  cases h with
  | enters hs =>
    refine iff_of_true (Or.inr ⟨loop, ?_⟩) (Or.inr ⟨rfl, hs⟩)
    rw [setServe_serves, Dictionary.get?_insert, if_pos rfl]
  | refused hs =>
    refine Iff.trans (b := s.HasStarted) ?_ (by simp [hs])
    exact hasStarted_insert hp rfl rfl (by simp) (by simp)
  | marks => exact iff_of_true (Or.inl rfl) (Or.inl (Or.inr ⟨loop, hp⟩))
  | polls =>
    refine Iff.trans (b := s.HasStarted) ?_ (by simp)
    exact hasStarted_insert hp rfl rfl (by simp) (by split <;> simp)
  | _ =>
    refine Iff.trans (b := s.HasStarted) ?_ (by simp)
    exact hasStarted_insert hp rfl rfl (by simp) (by simp)

theorem ServeStep.inShutdown {loop : Nat} {p : ServePhase} {e : ServeEvent}
    (h : ServeStep s loop p e t) : t.tracker.inShutdown = s.tracker.inShutdown := by
  cases h <;> rfl

theorem ServeStep.numbered {loop : Nat} {p : ServePhase} {e : ServeEvent}
    (hp : s.serves.get? loop = some p) (hn : s.serves.Numbered) (h : ServeStep s loop p e t) :
    t.serves.Numbered := by
  cases h <;> exact hn.insert_of_get? hp _

theorem StopStep.serves {n : Nat} {stop : Stop} {e : StopEvent} (h : StopStep s n stop e t) :
    t.serving = s.serving ∧ t.serves = s.serves ∧
      (t.tracker.inShutdown = true ↔ s.tracker.inShutdown = true ∨ e = .marks) := by
  cases h with
  | marks => exact ⟨rfl, rfl, iff_of_true rfl (Or.inr rfl)⟩
  | _ => exact ⟨rfl, rfl, by simp [advanceStop, setStop, notifyAll]⟩

theorem Step.hasStarted {e : ServerEvent} (hn : s.serves.Numbered) (h : Step s e t) :
    t.HasStarted ↔ s.HasStarted ∨
      ∃ loop, e = .serve loop .enters ∧ s.tracker.inShutdown = false := by
  cases h with
  | beginServe =>
    have hnew : (s.setServe s.serves.size .entering).HasStarted ↔ s.HasStarted := by
      have hmarking : ∀ l, (s.serves.insert s.serves.size .entering).get? l = some .marking ↔
          s.serves.get? l = some .marking := by
        intro l
        rw [Dictionary.get?_insert]
        by_cases hl : s.serves.size = l
        · rw [← hl, hn.get?_size]
          simp
        · rw [if_neg hl]
      simp only [HasStarted, setServe_serves, hmarking]
      rfl
    rw [hnew]
    simp
  | serve loop p e _ hp h =>
    rw [h.hasStarted hp]
    simp
  | stop n stop e _ _ h =>
    obtain ⟨hserving, hserves, -⟩ := h.serves
    simp [HasStarted, hserving, hserves]
  | _ => simp [HasStarted, notifyAll, setStop]

theorem Step.inShutdown {e : ServerEvent} (h : Step s e t) :
    t.tracker.inShutdown = true ↔ s.tracker.inShutdown = true ∨ ∃ n, e = .stop n .marks := by
  cases h with
  | serve loop p e _ _ h => simp [h.inShutdown]
  | stop n stop e _ _ h => simp [h.serves.2.2]
  | _ => simp [setServe, notifyAll, setStop, Tracker.untrack]

theorem Step.numbered {e : ServerEvent} (hn : s.serves.Numbered) (h : Step s e t) :
    t.serves.Numbered := by
  cases h with
  | beginServe => exact hn.insert_size _
  | serve loop p e _ hp h => exact h.numbered hp hn
  | stop n stop e _ _ h =>
    rw [h.serves.2.1]
    exact hn
  | _ => exact hn

/-! ## What a life keeps -/

theorem started_concat {e : LifeEvent η} : Started (es ++ [e]) ↔
    Started es ∨ ∃ loop, e = .stepped (.serve loop .enters) ∧ ¬ StopBegun es := by
  constructor
  · rintro ⟨before, loop, after, h, hs⟩
    rcases List.eq_nil_or_concat' after with rfl | ⟨after, x, rfl⟩
    · obtain ⟨rfl, he⟩ := List.append_inj' h rfl
      exact Or.inr ⟨loop, List.singleton_inj.mp he, hs⟩
    · rw [← List.cons_append, ← List.append_assoc] at h
      exact Or.inl ⟨before, loop, after, (List.append_inj' h rfl).1, hs⟩
  · rintro (⟨before, loop, after, rfl, hs⟩ | ⟨loop, rfl, hs⟩)
    · exact ⟨before, loop, after ++ [e], by simp, hs⟩
    · exact ⟨es, loop, [], rfl, hs⟩

/-- What is recorded of a life in the server. -/
structure Recorded (es : List (LifeEvent η)) (s : Server η) : Prop where
  numbered : s.serves.Numbered
  stopping : s.tracker.inShutdown = true ↔ StopBegun es
  started : s.HasStarted ↔ Started es
  table : ∀ key handler, s.handlers.get? key = some handler ↔
    ∃ verb, .registered verb handler ∈ es ∧ Text.uppercase verb = key

theorem recorded_new : Recorded (η := η) [] { listener } where
  numbered := Dictionary.numbered_empty
  stopping := by simp [StopBegun]
  started := by simp [HasStarted, Started]
  table := by simp

theorem Recorded.stepped {e : ServerEvent} (h : Recorded es s) (hstep : s.step? e = some t) :
    Recorded (es ++ [.stepped e]) t := by
  have hs := step?_eq_some_iff.mp hstep
  refine ⟨hs.numbered h.numbered, ?_, ?_, ?_⟩
  · rw [hs.inShutdown, h.stopping]
    simp [StopBegun, exists_or, eq_comm]
  · rw [hs.hasStarted h.numbered, h.started, started_concat, ← h.stopping]
    simp
  · intro key handler
    rw [hs.handlers, h.table]
    simp

theorem Recorded.lives {e : LifeEvent η} (h : Recorded es s) (hlives : Lives s e t) :
    Recorded (es ++ [e]) t := by
  cases hlives with
  | stepped e _ hstep => exact h.stepped hstep
  | refused verb handler fault hfree hr =>
    refine ⟨h.numbered, ?_, ?_, ?_⟩
    · rw [h.stopping]
      simp [StopBegun]
    · rw [h.started, started_concat]
      simp
    · intro key handler
      rw [h.table]
      simp
  | registered verb handler _ hfree hr =>
    obtain ⟨-, -, hnone, rfl⟩ := register_eq_ok_iff.mp hr
    refine ⟨h.numbered, ?_, ?_, ?_⟩
    · show s.tracker.inShutdown = true ↔ _
      rw [h.stopping]
      simp [StopBegun]
    · show s.HasStarted ↔ _
      rw [h.started, started_concat]
      simp
    · intro key other
      show (s.handlers.insert (Text.uppercase verb) handler).get? key = some other ↔ _
      simp only [List.mem_append, List.mem_singleton, LifeEvent.registered.injEq, or_and_right,
        exists_or]
      rw [← h.table, Dictionary.get?_insert]
      by_cases hkey : Text.uppercase verb = key
      · rw [if_pos hkey, ← hkey, hnone]
        constructor
        · intro hsome
          exact Or.inr ⟨verb, ⟨rfl, (Option.some.inj hsome).symm⟩, rfl⟩
        · rintro (hsome | ⟨_, ⟨-, rfl⟩, -⟩)
          · cases hsome
          · rfl
      · rw [if_neg hkey]
        constructor
        · exact Or.inl
        · rintro (hsome | ⟨_, ⟨rfl, -⟩, hother⟩)
          · exact hsome
          · exact absurd hother hkey

theorem Life.recorded (h : Life listener es s) : Recorded es s := by
  induction h with
  | new => exact recorded_new
  | snoc _ hlives ih => exact ih.lives hlives

/-! ## Refused registrations -/

/-- Nothing speaks against a registration that is accepted. -/
theorem Recorded.not_refuses (h : Recorded es s) (hfree : s.IsFree)
    (hr : s.register verb handler = .ok t) : ¬ Refuses es verb fault := by
  obtain ⟨hv, hs, hnone, -⟩ := register_eq_ok_iff.mp hr
  intro hrefuses
  cases hrefuses with
  | empty hempty => exact hv hempty
  | serving _ hstarted =>
    rw [hfree.serving_of_hasStarted (h.started.mpr hstarted)] at hs
    cases hs
  | taken other taker _ _ hother heq =>
    have htaken := (h.table _ taker).mpr ⟨other, hother, heq⟩
    rw [hnone] at htaken
    cases htaken

/-- A registration is refused for a reason. -/
theorem Recorded.refuses (h : Recorded es s) (hfree : s.IsFree)
    (hr : s.register verb handler = .error fault) : Refuses es verb fault := by
  rcases register_cases s verb handler with
    ⟨hv, hx⟩ | ⟨hv, hs, hx⟩ | ⟨hv, hs, htaken, hx⟩ | ⟨-, -, -, hx⟩
  · obtain rfl := Except.error.inj (hr.symm.trans hx)
    exact .empty hv
  · obtain rfl := Except.error.inj (hr.symm.trans hx)
    exact .serving hv (h.started.mp (Or.inl hs))
  · obtain rfl := Except.error.inj (hr.symm.trans hx)
    obtain ⟨taker, htaker⟩ := Option.ne_none_iff_exists'.mp htaken
    obtain ⟨other, hother, heq⟩ := (h.table _ _).mp htaker
    refine .taken other taker hv ?_ hother heq
    intro hstarted
    rw [hfree.serving_of_hasStarted (h.started.mpr hstarted)] at hs
    cases hs
  · rw [hr] at hx
    cases hx

/-- Each event of a life happens to the server that the events before it have left. -/
theorem Life.split {e : LifeEvent η} (h : Life listener es s) (hes : es = before ++ e :: after) :
    ∃ u v, Life listener before u ∧ Lives u e v := by
  induction h generalizing after with
  | new => simp at hes
  | @snoc xs x u v hu hlives ih =>
    rcases List.eq_nil_or_concat' after with rfl | ⟨after, y, rfl⟩
    · obtain ⟨rfl, hx⟩ := List.append_inj' hes rfl
      obtain rfl := List.singleton_inj.mp hx
      exact ⟨u, v, hu, hlives⟩
    · rw [← List.cons_append, ← List.append_assoc] at hes
      exact ih (List.append_inj' hes rfl).1

/-- Registrations are refused for the reasons of `Refuses` and for no other. -/
theorem Life.refuses (h : Life listener es s) :
    (∀ before verb handler after fault, es = before ++ .registered verb handler :: after →
      ¬ Refuses before verb fault) ∧
    ∀ before verb handler fault after, es = before ++ .refused verb handler fault :: after →
      Refuses before verb fault := by
  constructor
  · intro before verb handler after fault hes
    obtain ⟨u, v, hu, hlives⟩ := h.split hes
    cases hlives with
    | registered _ _ _ hfree hr => exact hu.recorded.not_refuses hfree hr
  · intro before verb handler fault after hes
    obtain ⟨u, v, hu, hlives⟩ := h.split hes
    cases hlives with
    | refused _ _ _ hfree hr => exact hu.recorded.refuses hfree hr

/-! ## Shared tables -/

/-- The handler table is shared with connections only when it is frozen. -/
structure SharesFrozen (s : Server η) : Prop where
  loops : ∀ loop p, s.serves.get? loop = some p → p.isUnderway = true → s.serving = true
  connections : ∀ id, s.connections.get? id ≠ none → s.serving = true

theorem sharesFrozen_of_serving (h : s.serving = true) : SharesFrozen s :=
  ⟨fun _ _ _ _ => h, fun _ _ => h⟩

theorem SharesFrozen.insert (h : SharesFrozen s) {loop : Nat} {p : ServePhase}
    (hp : p.isUnderway = false) (hserving : t.serving = s.serving)
    (hserves : t.serves = s.serves.insert loop p) (hc : t.connections = s.connections) :
    SharesFrozen t := by
  refine ⟨?_, ?_⟩
  · intro l q hq hunderway
    rw [hserves, Dictionary.get?_insert] at hq
    by_cases hl : loop = l
    · rw [if_pos hl] at hq
      rw [← Option.some.inj hq, hp] at hunderway
      cases hunderway
    · rw [if_neg hl] at hq
      exact hserving.trans (h.loops l q hq hunderway)
  · intro id hid
    exact hserving.trans (h.connections id (hc ▸ hid))

theorem ServeStep.sharesFrozen {loop : Nat} {p : ServePhase} {e : ServeEvent}
    (h : SharesFrozen s) (hp : s.serves.get? loop = some p) (hstep : ServeStep s loop p e t) :
    SharesFrozen t := by
  cases hstep with
  | marks => exact sharesFrozen_of_serving rfl
  | enters => exact h.insert (p := .marking) rfl rfl rfl rfl
  | refused => exact h.insert (p := .ended .closed) rfl rfl rfl rfl
  | leaves ending => exact h.insert (p := .notifying ending) rfl rfl rfl rfl
  | notifies ending => exact h.insert (p := .ended ending) rfl rfl rfl rfl
  | _ => exact sharesFrozen_of_serving (h.loops loop _ hp rfl)

theorem StopStep.connections {n : Nat} {stop : Stop} {e : StopEvent} (h : StopStep s n stop e t)
    {id : ConnectionId} (hid : t.connections.get? id ≠ none) : s.connections.get? id ≠ none := by
  intro hnone
  refine hid ?_
  cases h with
  | flags | cancels =>
    rw [advanceStop_connections, Dictionary.get?_modify]
    split <;> simp [hnone]
  | _ => exact hnone

theorem Step.sharesFrozen {e : ServerEvent} (h : SharesFrozen s) (hstep : Step s e t) :
    SharesFrozen t := by
  cases hstep with
  | beginServe => exact h.insert (p := .entering) rfl rfl rfl rfl
  | serve loop p e _ hp hstep => exact hstep.sharesFrozen h hp
  | beginStop => exact ⟨h.loops, h.connections⟩
  | stop n stop e _ _ hstep =>
    obtain ⟨hserving, hserves, -⟩ := hstep.serves
    refine ⟨?_, ?_⟩
    · rw [hserving, hserves]
      exact h.loops
    · intro id hid
      exact hserving.trans (h.connections id (hstep.connections hid))
  | connection id c _ _ hc | untracks id c hc | announces id c hc =>
    exact sharesFrozen_of_serving (h.connections id (by simp [hc]))

/-- There are connections only when the handler table is frozen, so a registration never finds it
shared. -/
theorem Life.sharesFrozen (h : Life listener es s) : SharesFrozen s := by
  induction h with
  | new => exact ⟨fun _ _ h => by simp at h, fun _ h => by simp at h⟩
  | snoc _ hlives ih =>
    cases hlives with
    | refused => exact ih
    | stepped _ _ hstep => exact (step?_eq_some_iff.mp hstep).sharesFrozen ih
    | registered _ _ _ _ hr =>
      obtain ⟨-, -, -, rfl⟩ := register_eq_ok_iff.mp hr
      exact ⟨ih.loops, ih.connections⟩

/-! ## Reached handlers -/

/-- A connection that waits for a request hands it to the handler that it is for. -/
theorem receives_iff {id : ConnectionId} {packet : ByteArray} (handler : η) (argument : String)
    (hp : s.phase? id = some .receiving) (hpacket : packet.size ≠ 0) :
    ∃ t, s.step? (.connection id (.receives packet)) = some t ∧
      (t.phase? id = some (.handling handler argument) ↔
        Request.dispatch s.handlers packet = .call handler argument) := by
  obtain ⟨c, hc, hphase⟩ := Option.map_eq_some_iff.mp hp
  let d : Connection η := { c with phase := Connection.phaseAfter s.handlers packet }
  let t : Server η := { s with connections := s.connections.insert id d }
  have hstep : s.step? (.connection id (.receives packet)) = some t := by
    simp [step?, hc, Connection.step?, hphase, t, d]
  have hafter : t.phase? id = some d.phase := by
    rw [phase?_insert (s := s) (d := d) rfl, if_pos rfl]
  refine ⟨t, hstep, ?_⟩
  rw [hafter, Option.some.injEq]
  show Connection.phaseAfter s.handlers packet = _ ↔ _
  rw [Connection.phaseAfter, if_neg (by simpa using hpacket)]
  cases Request.dispatch s.handlers packet <;> simp

/-- A request made of an accepted verb is handed to the verb's handler just if the verb is one
word. -/
theorem Life.receives_iff (h : Life listener es s) (hmem : .registered verb handler ∈ es)
    {argument : String} {id : ConnectionId}
    (hsize : (Text.encode (verb ++ " " ++ argument)).size ≤ 8192)
    (hp : s.phase? id = some .receiving) :
    ∃ t, s.step? (.connection id (.receives (Text.encode (verb ++ " " ++ argument)))) = some t ∧
      (t.phase? id = some (.handling handler argument) ↔ ' ' ∉ verb.toList) := by
  have hget := (h.recorded.table _ handler).mpr ⟨verb, hmem, rfl⟩
  have hpacket : (Text.encode (verb ++ " " ++ argument)).size ≠ 0 := by
    simp [Text.size_encode]
  obtain ⟨t, ht, hiff⟩ :=
    Server.receives_iff handler argument hp hpacket
  exact ⟨t, ht, hiff.trans (Request.dispatch_eq_call_iff hget hsize)⟩

/-- **The handler of a verb is reached, unless the verb has a space.**  In the life of a server a
registration is refused for a reason and otherwise accepted, and what is accepted makes up the
handler table.  On every connection that waits for a request, a request made of an accepted verb, a
space and an argument is handed to the handler of the verb with this argument if the verb is one
word; if it is not, the handler does not get this argument. -/
theorem registered_verbs_are_reached_unless_spaced (h : Life listener es s) :
    (∀ before verb handler after fault, es = before ++ .registered verb handler :: after →
      ¬ Refuses before verb fault) ∧
    (∀ before verb handler fault after, es = before ++ .refused verb handler fault :: after →
      Refuses before verb fault) ∧
    (∀ key handler, s.handlers.get? key = some handler ↔
      ∃ verb, .registered verb handler ∈ es ∧ Text.uppercase verb = key) ∧
    ∀ verb handler argument id, .registered verb handler ∈ es →
      (Text.encode (verb ++ " " ++ argument)).size ≤ 8192 → s.phase? id = some .receiving →
      ∃ t, s.step? (.connection id (.receives (Text.encode (verb ++ " " ++ argument)))) = some t ∧
        (t.phase? id = some (.handling handler argument) ↔ ' ' ∉ verb.toList) :=
  ⟨h.refuses.1, h.refuses.2, h.recorded.table,
    fun _ _ _ _ hmem hsize hp => h.receives_iff hmem hsize hp⟩

/-- The steps from the start of an accept loop until its first connection waits for a request. -/
def untilReceiving : List ServerEvent :=
  [.beginServe, .serve 0 .enters, .serve 0 .marks, .serve 0 .polls, .serve 0 (.accepts 5),
    .serve 0 .tracks, .serve 0 .spawns, .connection 1 .tests, .connection 1 .polls]

/-- A new server with one handler. -/
def handling (verb : String) : Server Nat :=
  { listener := ⟨0, none⟩, handlers := (∅ : HandlerTable Nat).insert (Text.uppercase verb) 7 }

theorem life_handling (verb : String) (hv : verb ≠ "") :
    Life ⟨0, none⟩ [.registered verb 7] (handling verb) := by
  have hr : Lives { listener := ⟨0, none⟩ } (.registered verb 7) (handling verb) := by
    refine .registered verb 7 _ ?_ (register_eq_ok_iff.mpr ⟨hv, rfl, rfl, rfl⟩)
    intro loop
    simp
  exact Life.new.snoc hr

theorem handling_untilReceiving (verb : String) : ∃ s : Server Nat,
    (handling verb).steps? untilReceiving = some s ∧ s.phase? 1 = some .receiving :=
  ⟨_, rfl, rfl⟩

/-- A life goes on with the steps of the tasks. -/
theorem Life.steps (h : Life listener es s) (steps : List ServerEvent)
    (ht : s.steps? steps = some t) : Life listener (es ++ steps.map .stepped) t := by
  induction steps generalizing es s with
  | nil =>
    cases ht
    simpa using h
  | cons e steps ih =>
    obtain ⟨u, hu, ht⟩ := Option.bind_eq_some_iff.mp ht
    simpa using ih (h.snoc (.stepped e u hu)) ht

/-- A second handler for the same verb is refused, and the first one gets the request. -/
theorem registered_verbs_are_reached_unless_spaced_put :
    ∃ (es : List (LifeEvent Nat)) (s t : Server Nat), Life ⟨0, none⟩ es s ∧
      es = [.registered "put" 7] ++ .refused "Put" 8 (.verbTaken "PUT") ::
        untilReceiving.map .stepped ∧
      Refuses [.registered "put" 7] "Put" (.verbTaken "PUT") ∧
      s.step? (.connection 1 (.receives (Text.encode ("put" ++ " " ++ "x")))) = some t ∧
      t.phase? 1 = some (.handling 7 "x") := by
  have hr : Lives (handling "put") (.refused "Put" 8 (.verbTaken "PUT")) (handling "put") :=
    .refused "Put" 8 _ (fun loop => by simp [handling]) rfl
  obtain ⟨s, hs, hp⟩ := handling_untilReceiving "put"
  have hlife := ((life_handling "put" (by simp)).snoc hr).steps untilReceiving hs
  obtain ⟨-, hrefuses, -, hreaches⟩ := registered_verbs_are_reached_unless_spaced hlife
  obtain ⟨t, ht, hiff⟩ := hreaches "put" 7 "x" 1 (by simp) (by decide) hp
  exact ⟨_, s, t, hlife, rfl, hrefuses _ _ _ _ _ rfl, ht, hiff.mpr (by decide)⟩

/-- A verb of two words is accepted, but the requests made of it do not reach its handler. -/
theorem spaced_verb_is_not_reached :
    ¬ ∀ (es : List (LifeEvent Nat)) (s : Server Nat) (verb : String) (handler : Nat)
        (argument : String) (id : ConnectionId), Life ⟨0, none⟩ es s →
      .registered verb handler ∈ es →
      (Text.encode (verb ++ " " ++ argument)).size ≤ 8192 → s.phase? id = some .receiving →
      ∃ t, s.step? (.connection id (.receives (Text.encode (verb ++ " " ++ argument)))) = some t ∧
        t.phase? id = some (.handling handler argument) := by
  intro hall
  obtain ⟨s, hs, hp⟩ := handling_untilReceiving "put file"
  have hlife := (life_handling "put file" (by simp)).steps untilReceiving hs
  have hmem : .registered "put file" 7 ∈
      [.registered "put file" 7] ++ untilReceiving.map (LifeEvent.stepped (η := Nat)) := by simp
  have hsize : (Text.encode ("put file" ++ " " ++ "x")).size ≤ 8192 := by decide
  obtain ⟨t, ht, hhandling⟩ := hall _ _ _ _ _ _ hlife hmem hsize hp
  obtain ⟨t', ht', hiff⟩ := hlife.receives_iff hmem hsize hp
  obtain rfl := Option.some.inj (ht.symm.trans ht')
  exact hiff.mp hhandling (by decide)

end Server

end FsidRegistry

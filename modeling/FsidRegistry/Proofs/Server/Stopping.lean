import FsidRegistry.Proofs.Server.Live

/-!
# A stop reaches every connection

A stop marks the tracker first and lists the live connections much later, and in between the
accept loops, the connections and other stops go on.  This file shows that none of them can slip
a connection past the stop.

* `Sealed`, `Steps.sealed`: once the tracker is marked, it stays marked, no connection enters it,
  no accept loop is entered, and no flag and no token of a connection is taken back.
* `Covers`: a stop accounts for a live connection if it has yet to turn to it or has dealt with
  it already.  `Guarded.step`: every step keeps this for every stop.
* `stop_misses_no_connection`: the two together, for every run.
-/

namespace FsidRegistry

/-- Whether an accept loop has been entered and not been left. -/
def ServePhase.isListening : ServePhase → Bool
  | .entering | .notifying _ | .ended _ => false
  | _ => true

namespace StopPhase

/-- The stop has yet to set the flag of a connection, or to find out which are live. -/
def WillFlag (id : ConnectionId) : StopPhase → Prop
  | .flagging i rest => id = i ∨ id ∈ rest
  | .shutting _ rest | .cancelling _ rest => id ∈ rest
  | .lingering | .draining _ _ | .finished => False
  | _ => True

/-- The stop has yet to set the token of a connection, or to find out which are live. -/
def WillCancel (id : ConnectionId) : StopPhase → Prop
  | .flagging i rest | .shutting i rest | .cancelling i rest => id = i ∨ id ∈ rest
  | .lingering | .draining _ _ | .finished => False
  | _ => True

/-- The stop has turned to all connections that it listed. -/
def isPastAll : StopPhase → Bool
  | .lingering | .draining _ _ | .finished => true
  | _ => false

theorem not_willFlag_of_isPastAll {p : StopPhase} (h : p.isPastAll = true) (id : ConnectionId) :
    ¬ p.WillFlag id := by
  cases p <;> first | exact fun h => h | cases h

theorem not_willCancel_of_isPastAll {p : StopPhase} (h : p.isPastAll = true) (id : ConnectionId) :
    ¬ p.WillCancel id := by
  cases p <;> first | exact fun h => h | cases h

theorem willFlag_turnTo (force : Bool) (ids : List ConnectionId) (id : ConnectionId) :
    (Stop.turnTo force ids).WillFlag id ↔ id ∈ ids := by
  cases ids with
  | nil => cases force <;> simp [Stop.turnTo, WillFlag]
  | cons i rest => simp [Stop.turnTo, WillFlag]

theorem willCancel_turnTo (force : Bool) (ids : List ConnectionId) (id : ConnectionId) :
    (Stop.turnTo force ids).WillCancel id ↔ id ∈ ids := by
  cases ids with
  | nil => cases force <;> simp [Stop.turnTo, WillCancel]
  | cons i rest => simp [Stop.turnTo, WillCancel]

end StopPhase

namespace Server

variable {η : Type} {s t u : Server η}

/-! ## What stays once the tracker is marked -/

/-- An accept loop has been entered and not been left. -/
def IsListening (s : Server η) (loop : Nat) : Prop :=
  ∃ p, s.serves.get? loop = some p ∧ p.isListening = true

/-- Every connection of the first map is in the second, its flag and its token still set if they
were. -/
def FlagsKept (a b : Dictionary ConnectionId (Connection η)) : Prop :=
  ∀ id c, a.get? id = some c → ∃ d, b.get? id = some d ∧
    (c.inShutdown = true → d.inShutdown = true) ∧ (c.cancelled = true → d.cancelled = true)

theorem FlagsKept.refl (a : Dictionary ConnectionId (Connection η)) : FlagsKept a a :=
  fun _ c hc => ⟨c, hc, id, id⟩

theorem FlagsKept.trans {a b c : Dictionary ConnectionId (Connection η)} (h : FlagsKept a b)
    (g : FlagsKept b c) : FlagsKept a c := by
  intro id x hx
  obtain ⟨y, hy, h1, h2⟩ := h id x hx
  obtain ⟨z, hz, g1, g2⟩ := g id y hy
  exact ⟨z, hz, fun hf => g1 (h1 hf), fun hf => g2 (h2 hf)⟩

theorem flagsKept_insert {a : Dictionary ConnectionId (Connection η)} {id : ConnectionId}
    {c d : Connection η} (hc : a.get? id = some c)
    (h : (c.inShutdown = true → d.inShutdown = true) ∧ (c.cancelled = true → d.cancelled = true)) :
    FlagsKept a (a.insert id d) := by
  intro i x hx
  rw [Dictionary.get?_insert]
  by_cases hi : id = i
  · subst hi
    obtain rfl : c = x := Option.some.inj (hc.symm.trans hx)
    exact ⟨d, if_pos rfl, h⟩
  · exact ⟨x, by rw [if_neg hi, hx], fun h => h, fun h => h⟩

theorem flagsKept_modify (a : Dictionary ConnectionId (Connection η)) (id : ConnectionId)
    {f : Connection η → Connection η}
    (hf : ∀ c, (c.inShutdown = true → (f c).inShutdown = true) ∧
      (c.cancelled = true → (f c).cancelled = true)) :
    FlagsKept a (a.modify id f) := by
  intro i x hx
  rw [Dictionary.get?_modify, hx]
  by_cases hi : id = i
  · exact ⟨f x, if_pos hi, hf x⟩
  · exact ⟨x, if_neg hi, fun h => h, fun h => h⟩

/-- What a later server has kept of one whose tracker was marked. -/
structure Sealed (s t : Server η) : Prop where
  inShutdown : t.tracker.inShutdown = true
  live : t.tracker.live ⊆ s.tracker.live
  loops : ∀ loop, t.IsListening loop → s.IsListening loop
  flags : FlagsKept s.connections t.connections

theorem Sealed.refl (h : s.tracker.inShutdown = true) : Sealed s s :=
  ⟨h, fun _ h => h, fun _ h => h, .refl _⟩

theorem Sealed.trans (h : Sealed s t) (g : Sealed t u) : Sealed s u :=
  ⟨g.inShutdown, fun _ hi => h.live (g.live hi), fun l hl => h.loops l (g.loops l hl),
    h.flags.trans g.flags⟩

/-- Moving an accept loop on leaves it in the loop only if it was there before. -/
theorem isListening_insert {loop : Nat} {p q : ServePhase} (hp : s.serves.get? loop = some p)
    (h : q.isListening = true → p.isListening = true) (ht : t.serves = s.serves.insert loop q) :
    ∀ l, t.IsListening l → s.IsListening l := by
  rintro l ⟨r, hr, hl⟩
  rw [ht, Dictionary.get?_insert] at hr
  by_cases hll : loop = l
  · subst hll
    rw [if_pos rfl] at hr
    obtain rfl := Option.some.inj hr
    exact ⟨p, hp, h hl⟩
  · rw [if_neg hll] at hr
    exact ⟨r, hr, hl⟩

theorem ServeStep.sealed {loop : Nat} {p : ServePhase} {e : ServeEvent}
    (hp : s.serves.get? loop = some p) (hs : s.tracker.inShutdown = true)
    (h : ServeStep s loop p e t) : Sealed s t := by
  cases h with
  | enters h => rw [hs] at h; cases h
  | tracks _ h => rw [hs] at h; cases h
  | spawns id =>
    exact ⟨hs, fun _ h => h, isListening_insert hp (fun _ => rfl) rfl,
      flagsKept_modify _ _ fun _ => ⟨fun h => h, fun h => h⟩⟩
  | polls => exact ⟨hs, fun _ h => h, isListening_insert hp (fun _ => rfl) rfl, .refl _⟩
  | _ =>
    exact ⟨hs, fun _ h => h, isListening_insert hp (fun h => by first | rfl | exact h) rfl, .refl _⟩

theorem StopStep.sealed {n : Nat} {stop : Stop} {e : StopEvent} (hs : s.tracker.inShutdown = true)
    (h : StopStep s n stop e t) : Sealed s t := by
  cases h with
  | marks => exact ⟨rfl, fun _ h => h, fun _ h => h, .refl _⟩
  | flags id =>
    exact ⟨hs, fun _ h => h, fun _ h => h, flagsKept_modify _ _ fun _ => ⟨fun _ => rfl, fun h => h⟩⟩
  | cancels id =>
    exact ⟨hs, fun _ h => h, fun _ h => h, flagsKept_modify _ _ fun _ => ⟨fun h => h, fun _ => rfl⟩⟩
  | _ => exact ⟨hs, fun _ h => h, fun _ h => h, .refl _⟩

theorem Step.sealed {e : ServerEvent} (hs : s.tracker.inShutdown = true) (h : Step s e t) :
    Sealed s t := by
  cases h with
  | beginServe =>
    refine ⟨hs, fun _ h => h, ?_, .refl _⟩
    rintro l ⟨p, hp, hl⟩
    rw [setServe_serves, Dictionary.get?_insert] at hp
    split at hp
    · cases hp; cases hl
    · exact ⟨p, hp, hl⟩
  | serve _ _ _ _ hp h => exact h.sealed hp hs
  | connection id c d _ hc h =>
    exact ⟨hs, fun _ h => h, fun _ h => h, flagsKept_insert hc h.rises⟩
  | untracks id c hc =>
    exact ⟨hs, fun _ h => (List.mem_filter.mp h).1, fun _ h => h,
      flagsKept_insert hc ⟨fun h => h, fun h => h⟩⟩
  | announces id c hc =>
    exact ⟨hs, fun _ h => h, fun _ h => h, flagsKept_insert hc ⟨fun h => h, fun h => h⟩⟩
  | beginStop => exact ⟨hs, fun _ h => h, fun _ h => h, .refl _⟩
  | stop _ _ _ _ _ h => exact h.sealed hs

theorem Steps.sealed (hs : s.tracker.inShutdown = true) (h : Steps s t) : Sealed s t := by
  induction h with
  | refl => exact .refl hs
  | tail _ hn ih =>
    obtain ⟨e, he⟩ := hn
    exact ih.trans ((step?_eq_some_iff.mp he).sealed ih.inShutdown)

/-! ## What a stop accounts for -/

/-- A stop has yet to turn to every live connection that it has not dealt with. -/
def Covers (s : Server η) (stop : Stop) : Prop :=
  ∀ id ∈ s.tracker.live, ∀ c, s.connections.get? id = some c →
    (stop.phase.WillFlag id ∨ c.inShutdown = true) ∧
      (stop.force = true → stop.phase.WillCancel id ∨ c.cancelled = true)

/-- The invariant of stops. -/
structure Guarded (s : Server η) : Prop where
  marked : ∀ n stop, s.stops.get? n = some stop → stop.phase ≠ .marking →
    s.tracker.inShutdown = true
  covers : ∀ n stop, s.stops.get? n = some stop → s.Covers stop

theorem covers_of_willFlag {stop : Stop} (hf : ∀ id, stop.phase.WillFlag id)
    (hc : ∀ id, stop.phase.WillCancel id) : s.Covers stop :=
  fun id _ _ _ => ⟨Or.inl (hf id), fun _ => Or.inl (hc id)⟩

theorem covers_of_marking {stop : Stop} (h : stop.phase = .marking) : s.Covers stop :=
  covers_of_willFlag (fun _ => by rw [h]; trivial) (fun _ => by rw [h]; trivial)

/-- A stop that covers the live connections covers them still after the step of another task. -/
theorem Covers.of_sealed {stop stop' : Stop} (h : s.Covers stop)
    (hk : ∀ id ∈ s.tracker.live, ∃ c, s.connections.get? id = some c) (hst : Sealed s t)
    (hforce : stop'.force = stop.force)
    (hf : ∀ id, stop.phase.WillFlag id → stop'.phase.WillFlag id)
    (hc : ∀ id, stop.phase.WillCancel id → stop'.phase.WillCancel id) : t.Covers stop' := by
  intro id hid d hd
  obtain ⟨c, hcs⟩ := hk id (hst.live hid)
  obtain ⟨d', hd', h1, h2⟩ := hst.flags id c hcs
  obtain rfl : d' = d := Option.some.inj (hd'.symm.trans hd)
  obtain ⟨g1, g2⟩ := h id (hst.live hid) c hcs
  exact ⟨g1.imp (hf id) h1, fun hforce' => (g2 (hforce ▸ hforce')).imp (hc id) h2⟩

theorem willFlag_notify (stop : Stop) (id : ConnectionId) :
    stop.notify.phase.WillFlag id ↔ stop.phase.WillFlag id := by
  unfold Stop.notify
  split <;> simp_all [StopPhase.WillFlag]

theorem willCancel_notify (stop : Stop) (id : ConnectionId) :
    stop.notify.phase.WillCancel id ↔ stop.phase.WillCancel id := by
  unfold Stop.notify
  split <;> simp_all [StopPhase.WillCancel]

theorem force_notify (stop : Stop) : stop.notify.force = stop.force := by
  unfold Stop.notify
  split <;> rfl

theorem marking_notify (stop : Stop) : stop.notify.phase = .marking ↔ stop.phase = .marking := by
  unfold Stop.notify
  split <;> simp_all

/-- The stop is one of the server's, up to having been told of a change. -/
def HasStop (s : Server η) (n : Nat) (stop : Stop) : Prop :=
  ∃ stop₀, s.stops.get? n = some stop₀ ∧ (stop = stop₀ ∨ stop = stop₀.notify)

theorem hasStop_notifyAll {n : Nat} {stop : Stop}
    (h : (s.stops.map Stop.notify).get? n = some stop) : s.HasStop n stop := by
  rw [Dictionary.get?_map, Option.map_eq_some_iff] at h
  obtain ⟨stop₀, h0, rfl⟩ := h
  exact ⟨stop₀, h0, Or.inr rfl⟩

theorem Guarded.marked_of_hasStop (h : Guarded s) {n : Nat} {stop : Stop} (hs : s.HasStop n stop)
    (hp : stop.phase ≠ .marking) : s.tracker.inShutdown = true := by
  obtain ⟨stop₀, h0, rfl | rfl⟩ := hs
  · exact h.marked n _ h0 hp
  · exact h.marked n _ h0 fun hm => hp ((marking_notify _).mpr hm)

/-- Whatever task makes a step, the other stops cover the live connections still: before the
tracker is marked because no stop has looked yet, and afterwards because nothing is taken back. -/
theorem Guarded.covers_of_hasStop (h : Guarded s) (ht : Tracked s) {n : Nat} {stop : Stop}
    (hs : s.HasStop n stop) (hst : s.tracker.inShutdown = true → Sealed s t) : t.Covers stop := by
  by_cases hm : stop.phase = .marking
  · exact covers_of_marking hm
  · have hsealed := hst (h.marked_of_hasStop hs hm)
    obtain ⟨stop₀, h0, rfl | rfl⟩ := hs
    · exact (h.covers n _ h0).of_sealed ht.known hsealed rfl (fun _ h => h) (fun _ h => h)
    · exact (h.covers n _ h0).of_sealed ht.known hsealed (force_notify _)
        (fun id => (willFlag_notify _ id).mpr) (fun id => (willCancel_notify _ id).mpr)

/-! ## Steps keep the invariant -/

theorem ServeStep.hasStop {loop : Nat} {p : ServePhase} {e : ServeEvent}
    (hstep : ServeStep s loop p e t) {n : Nat} {stop : Stop} (h : t.stops.get? n = some stop) :
    s.HasStop n stop := by
  cases hstep with
  | notifies => exact hasStop_notifyAll h
  | _ => exact ⟨stop, h, Or.inl rfl⟩

/-- What the step of a stop makes of the stop itself. -/
structure Advanced (s t : Server η) (n : Nat) (stop : Stop) : Prop where
  others : ∀ m stop', t.stops.get? m = some stop' → s.HasStop m stop' ∨ stop' = stop
  marked : t.tracker.inShutdown = true
  covers : t.Covers stop

theorem others_insert {n : Nat} {stop : Stop} (ht : t.stops = s.stops.insert n stop) :
    ∀ m stop', t.stops.get? m = some stop' → s.HasStop m stop' ∨ stop' = stop := by
  intro m stop' h
  rw [ht, Dictionary.get?_insert] at h
  split at h
  · exact Or.inr (Option.some.inj h).symm
  · exact Or.inl ⟨stop', h, Or.inl rfl⟩

theorem StopStep.advanced {n : Nat} {stop : Stop} {e : StopEvent} (h : Guarded s) (ht : Tracked s)
    (hs : s.stops.get? n = some stop) (hstep : StopStep s n stop e t) :
    ∃ stop', Advanced s t n stop' := by
  have hmark : stop.phase ≠ .marking → s.tracker.inShutdown = true := h.marked n stop hs
  have hcov := h.covers n stop hs
  cases hstep with
  | marks =>
    exact ⟨_, others_insert rfl, rfl, covers_of_willFlag (fun _ => trivial) (fun _ => trivial)⟩
  | notifies hp =>
    refine ⟨{ stop with phase := .requesting }, ?_, hmark (by rw [hp]; rintro ⟨⟩),
      covers_of_willFlag (fun _ => trivial) (fun _ => trivial)⟩
    intro m stop' hm
    rw [advanceStop_stops, notifyAll_stops, Dictionary.get?_insert] at hm
    split at hm
    · exact Or.inr (Option.some.inj hm).symm
    · exact Or.inl (hasStop_notifyAll hm)
  | requests hp | closes _ hp | waitsForLoops _ _ _ hp | seesNoLoop _ _ hp =>
    exact ⟨_, others_insert rfl, hmark (by rw [hp]; rintro ⟨⟩),
      covers_of_willFlag (fun _ => trivial) (fun _ => trivial)⟩
  | lists hp =>
    refine ⟨_, others_insert rfl, hmark (by rw [hp]; rintro ⟨⟩), fun id hid _ _ => ?_⟩
    exact ⟨Or.inl ((StopPhase.willFlag_turnTo _ _ id).mpr hid),
      fun _ => Or.inl ((StopPhase.willCancel_turnTo _ _ id).mpr hid)⟩
  | flags i rest hp =>
    refine ⟨_, others_insert rfl, hmark (by rw [hp]; rintro ⟨⟩), fun id hid d hd => ?_⟩
    rw [advanceStop_connections, Dictionary.get?_modify] at hd
    obtain ⟨c, hc⟩ := ht.known id hid
    obtain ⟨hf, hcan⟩ := hcov id hid c hc
    rw [hp] at hf hcan
    rw [hc] at hd
    by_cases hi : i = id
    · rw [if_pos hi] at hd
      cases hd
      exact ⟨Or.inr rfl, hcan⟩
    · rw [if_neg hi] at hd
      cases hd
      exact ⟨hf.imp_left fun hw => hw.resolve_left fun he => hi he.symm, hcan⟩
  | shuts i rest outcome hp =>
    have hforce : (stop.noting outcome).force = stop.force := by cases outcome <;> rfl
    refine ⟨_, others_insert rfl, hmark (by rw [hp]; rintro ⟨⟩), fun id hid d hd => ?_⟩
    obtain ⟨hf, hcan⟩ := hcov id hid d hd
    rw [hp] at hf hcan
    show (StopPhase.WillFlag id _ ∨ _) ∧ ((stop.noting outcome).force = true → _)
    rw [hforce]
    by_cases hb : stop.force = true
    · rw [if_pos hb]
      exact ⟨hf, hcan⟩
    · rw [if_neg hb]
      exact ⟨hf.imp_left (StopPhase.willFlag_turnTo _ _ id).mpr, fun hb' => absurd hb' hb⟩
  | cancels i rest hp =>
    refine ⟨_, others_insert rfl, hmark (by rw [hp]; rintro ⟨⟩), fun id hid d hd => ?_⟩
    rw [advanceStop_connections, Dictionary.get?_modify] at hd
    obtain ⟨c, hc⟩ := ht.known id hid
    obtain ⟨hf, hcan⟩ := hcov id hid c hc
    rw [hp] at hf hcan
    rw [hc] at hd
    have hflag : (Stop.turnTo true rest).WillFlag id ∨ c.inShutdown = true :=
      hf.imp_left (StopPhase.willFlag_turnTo _ _ id).mpr
    by_cases hi : i = id
    · rw [if_pos hi] at hd
      cases hd
      exact ⟨hflag, fun _ => Or.inr rfl⟩
    · rw [if_neg hi] at hd
      cases hd
      refine ⟨hflag, fun hb => (hcan hb).imp_left fun hw => ?_⟩
      exact (StopPhase.willCancel_turnTo _ _ id).mpr (hw.resolve_left fun he => hi he.symm)
  | lingers _ hp | waitsForConnections _ _ _ _ hp | seesNoConnection _ _ _ hp | givesUp _ _ _ hp =>
    refine ⟨_, others_insert rfl, hmark (by rw [hp]; rintro ⟨⟩), fun id hid d hd => ?_⟩
    have := hcov id hid d hd
    rw [hp] at this
    exact this

theorem guarded_of_hasStop (h : Guarded s) (ht : Tracked s)
    (hst : s.tracker.inShutdown = true → Sealed s t)
    (hs : ∀ n stop, t.stops.get? n = some stop → s.HasStop n stop ∨ stop.phase = .marking) :
    Guarded t := by
  refine ⟨fun n stop hn hp => ?_, fun n stop hn => ?_⟩
  · rcases hs n stop hn with hs | hm
    · exact (hst (h.marked_of_hasStop hs hp)).inShutdown
    · exact absurd hm hp
  · rcases hs n stop hn with hs | hm
    · exact h.covers_of_hasStop ht hs hst
    · exact covers_of_marking hm

/-- **Every step keeps every stop covering the live connections.** -/
theorem Guarded.step {e : ServerEvent} (h : Guarded s) (ht : Tracked s) (hstep : Step s e t) :
    Guarded t := by
  have hst : s.tracker.inShutdown = true → Sealed s t := fun hs => hstep.sealed hs
  have hsame : ∀ n stop, s.stops.get? n = some stop → s.HasStop n stop ∨ stop.phase = .marking :=
    fun n stop hn => Or.inl ⟨stop, hn, Or.inl rfl⟩
  cases hstep with
  | serve _ _ _ _ _ hstep =>
    exact guarded_of_hasStop h ht hst fun n stop hn => Or.inl (hstep.hasStop hn)
  | announces id c hc =>
    exact guarded_of_hasStop h ht hst fun n stop hn => Or.inl (hasStop_notifyAll hn)
  | beginStop force timeout =>
    refine guarded_of_hasStop h ht hst fun n stop hn => ?_
    rw [setStop, Dictionary.get?_insert] at hn
    split at hn
    · exact Or.inr (by rw [← Option.some.inj hn])
    · exact hsame n stop hn
  | stop n stop e _ hs hstep =>
    -- The stop that makes the step accounts for itself, all others are as after any other task.
    obtain ⟨stop', ha⟩ := hstep.advanced h ht hs
    refine ⟨fun m x hm hp => ha.marked, fun m x hm => ?_⟩
    rcases ha.others m x hm with ho | rfl
    · exact h.covers_of_hasStop ht ho hst
    · exact ha.covers
  | _ => exact guarded_of_hasStop h ht hst hsame

theorem Reachable.guarded (h : Reachable s) : Guarded s := by
  obtain ⟨listener, handlers, h⟩ := h
  induction h with
  | refl => exact ⟨fun _ _ h => (by cases h), fun _ _ h => (by cases h)⟩
  | tail hs hn ih =>
    obtain ⟨e, he⟩ := hn
    exact ih.step (Reachable.tracked ⟨listener, handlers, hs⟩) (step?_eq_some_iff.mp he)

/-- **No connection escapes a stop.**  Once the tracker is marked it stays marked, no connection
enters it and no accept loop is entered; and when a stop is past the connections that it listed,
every live connection has its flag set and, if the stop is forced, its token too.  What closing the
listener and shutting the connections came to does not matter. -/
theorem stop_misses_no_connection (hs : Reachable s) (hst : Steps s t) :
    (s.tracker.inShutdown = true → t.tracker.inShutdown = true ∧
      t.tracker.live ⊆ s.tracker.live ∧ ∀ loop, t.IsListening loop → s.IsListening loop) ∧
    ∀ n stop, t.stops.get? n = some stop → stop.phase.isPastAll = true →
      ∀ id ∈ t.tracker.live, ∃ c, t.connections.get? id = some c ∧ c.inShutdown = true ∧
        (stop.force = true → c.cancelled = true) := by
  constructor
  · intro hm
    have h := Steps.sealed hm hst
    exact ⟨h.inShutdown, h.live, h.loops⟩
  · intro n stop hn hp id hid
    have hg := (hs.trans hst).guarded
    obtain ⟨c, hc⟩ := (hs.trans hst).tracked.known id hid
    obtain ⟨hf, ht⟩ := hg.covers n stop hn id hid c hc
    exact ⟨c, hc, hf.resolve_left (StopPhase.not_willFlag_of_isPastAll hp id),
      fun hb => (ht hb).resolve_left (StopPhase.not_willCancel_of_isPastAll hp id)⟩

/-- A forced stop that begins while an accept loop holds one more connection, and meets an error on
each of its ways. -/
theorem stop_misses_no_connection_forced :
    ∃ s t : Server Unit, s.tracker.inShutdown = true ∧ t.tracker.inShutdown = true ∧
      t.tracker.live = [1] ∧ (∃ stop, t.stops.get? 0 = some stop ∧ stop.phase = .finished ∧
        stop.force = true ∧ stop.errors.length = 2) ∧
      ∃ c, t.connections.get? 1 = some c ∧ c.inShutdown = true ∧ c.cancelled = true := by
  let new : Server Unit := { listener := ⟨0, some "/run/fsidd.sock"⟩ }
  let before : List ServerEvent :=
    [.beginServe, .serve 0 .enters, .serve 0 .marks, .serve 0 .polls, .serve 0 (.accepts 5),
      .serve 0 .tracks, .serve 0 .spawns, .serve 0 .polls, .serve 0 (.accepts 6),
      .beginStop true .zero, .stop 0 .marks]
  let after : List ServerEvent :=
    [.serve 0 .tracks, .stop 0 .notifies, .stop 0 .requests,
      .stop 0 (.closes (.failed (.standard .permissionDenied))), .serve 0 .leaves,
      .stop 0 (.waits .registers), .stop 0 (.waits .checks), .serve 0 .notifies, .stop 0 .lists,
      .stop 0 .flags, .stop 0 (.shuts (.error (.standard .other))), .stop 0 .cancels]
  have hrun : (new.steps? before).any (fun s => s.tracker.inShutdown && (s.steps? after).any
      (fun t => t.tracker.live == [1] && (t.stops.get? 0).any fun stop =>
        decide (stop.phase = .finished) && stop.force && stop.errors.length == 2)) = true := by
    decide +kernel
  simp only [Option.any_eq_true, Bool.and_eq_true, decide_eq_true_eq, beq_iff_eq] at hrun
  obtain ⟨s, hs, hm, t, ht, hlive, stop, hstop, ⟨hp, hforce⟩, herrors⟩ := hrun
  have h := stop_misses_no_connection ⟨_, _, steps_of_steps? hs⟩ (steps_of_steps? ht)
  obtain ⟨c, hc, hf, hcan⟩ := h.2 0 stop hstop (by rw [hp]; rfl) 1 (by rw [hlive]; simp)
  exact ⟨s, t, hm, (h.1 hm).1, hlive, ⟨stop, hstop, hp, hforce, herrors⟩, c, hc, hf, hcan hforce⟩

end Server

end FsidRegistry

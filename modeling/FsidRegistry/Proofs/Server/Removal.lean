import FsidRegistry.Proofs.Dictionary
import FsidRegistry.Proofs.Host.Binding
import FsidRegistry.Proofs.Server.Step

/-!
# The socket file and the stops of a server

A server may be stopped any number of times, and each stop closes the listener.  The listener gives up
the path of its socket file when it is closed first, before it knows what came of removing the file, so
there is one attempt in every run (`attempt?`), and only the stop that made it hears of its failure.

* `Stop.progress`: the errors that a stop has met, and whether it has closed the listener.
* `Failed`: what a stop has met in a list of steps.
* `Releasing`, `Releasing.step`, `Releasing.steps`: the server remembers the path until the attempt, and
  the errors of each stop are what it has met.  Every step keeps this, one lemma for each kind.
* `stop_succeeds_iff`: when a finished stop is a success.
* `stop_forgets_failed_removal`: a second stop is one, though the file was never removed.
-/

namespace FsidRegistry

/-- Whether a stop has closed the listener. -/
def StopPhase.hasClosed : StopPhase → Bool
  | .marking | .notifying | .requesting | .closing => false
  | _ => true

namespace Listener

/-- A listener without a path removes nothing, and calls that a success. -/
theorem unlink_of_path_eq_none {l : Listener} {h : Host} (hl : l.path = none) :
    l.unlink h = (.ok (), l, h) := by
  unfold unlink removal release
  simp only [hl]

theorem drop_of_path_eq_none {l : Listener} {h : Host} (hl : l.path = none) :
    (l.drop h).files = h.files := by
  unfold drop
  rw [unlink_of_path_eq_none hl]
  exact Host.closeSocket_files.1

end Listener

namespace Stop

variable {stop : Stop}

/-- What a stop has come to: the errors that it has met, and whether it has closed the listener. -/
def progress (stop : Stop) : List Error × Bool := (stop.errors, stop.phase.hasClosed)

theorem progress_notify : stop.notify.progress = stop.progress := by
  unfold notify
  split <;> simp_all [progress, StopPhase.hasClosed]

theorem mem_noting {outcome : Except IoError Unit} {x : Error} :
    x ∈ (stop.noting outcome).errors ↔
      x ∈ stop.errors ∨ ∃ e, x = .io e ∧ outcome = .error e := by
  cases outcome <;> simp [noting]

theorem hasClosed_turnTo (force : Bool) (ids : List ConnectionId) :
    (turnTo force ids).hasClosed = true := by
  cases ids with
  | nil => cases force <;> rfl
  | cons => rfl

/-- A stop is a success if it has met no error. -/
theorem result_eq_ok_iff : stop.result = .ok () ↔ stop.errors = [] := by
  unfold result Error.merge
  split <;> simp_all

end Stop

/-- The stop that closes the listener in a step, and what comes of removing the socket file. -/
def ServerEvent.closing? : ServerEvent → Option (Nat × Listener.Removal)
  | .stop n (.closes removal) => some (n, removal)
  | _ => none

namespace Server

variable {η : Type} {s t : Server η} {es : List ServerEvent} {e : ServerEvent} {path : String}

/-! ## What is done in a run -/

/-- The attempt to remove the socket file: who closes the listener first, and what comes of it. -/
def attempt? (es : List ServerEvent) : Option (Nat × Listener.Removal) :=
  es.findSome? ServerEvent.closing?

/-- A stop has met an error: it made the attempt and that failed, or it could not shut a connection. -/
def Failed (es : List ServerEvent) (k : Nat) (x : IoError) : Prop :=
  attempt? es = some (k, .failed x) ∨ .stop k (.shuts (.error x)) ∈ es

theorem attempt?_concat : attempt? (es ++ [e]) = (attempt? es).or e.closing? := by
  simp [attempt?, List.findSome?_append]

/-- A step that neither closes the listener nor fails to shut a connection meets no error. -/
theorem failed_concat (hc : e.closing? = none) (hs : ∀ k x, e ≠ .stop k (.shuts (.error x))) {k : Nat}
    {x : IoError} : Failed (es ++ [e]) k x ↔ Failed es k x := by
  simp [Failed, attempt?_concat, hc, (hs k x).symm]

theorem failed_shuts {n k : Nat} {outcome : Except IoError Unit} {x : IoError} :
    Failed (es ++ [.stop n (.shuts outcome)]) k x ↔
      Failed es k x ∨ n = k ∧ outcome = .error x := by
  simp only [Failed, attempt?_concat, ServerEvent.closing?, Option.or_none, List.mem_append,
    List.mem_singleton, ServerEvent.stop.injEq, StopEvent.shuts.injEq, or_assoc, eq_comm]

theorem failed_closes {n k : Nat} {removal : Listener.Removal} {x : IoError} :
    Failed (es ++ [.stop n (.closes removal)]) k x ↔
      Failed es k x ∨ n = k ∧ attempt? es = none ∧ removal = .failed x := by
  cases ha : attempt? es with
  | none => simp [Failed, attempt?_concat, ServerEvent.closing?, ha, or_comm]
  | some a => simp [Failed, attempt?_concat, ServerEvent.closing?, ha]

/-! ## What the stops have come to -/

/-- What a stop of the server has come to. -/
def progress? (s : Server η) (k : Nat) : Option (List Error × Bool) :=
  (s.stops.get? k).map Stop.progress

theorem progress?_insert {n : Nat} {stop : Stop} (ht : t.stops = s.stops.insert n stop) (k : Nat) :
    t.progress? k = if n = k then some stop.progress else s.progress? k := by
  rw [progress?, ht, Dictionary.get?_insert]
  split
  · rfl
  · rfl

/-- A stop that makes a step without an error, and without closing the listener, is where it was. -/
theorem progress?_insert_self {n : Nat} {stop stop' : Stop} (hs : s.stops.get? n = some stop)
    (ht : t.stops = s.stops.insert n stop') (hp : stop'.progress = stop.progress) :
    t.progress? = s.progress? := by
  funext k
  rw [progress?_insert ht]
  split
  · subst k
    rw [progress?, hs, hp]
    rfl
  · rfl

theorem progress?_notifyAll : s.notifyAll.progress? = s.progress? := by
  funext k
  simp only [progress?, notifyAll_stops, Dictionary.get?_map, Option.map_map]
  congr 1
  funext stop
  exact Stop.progress_notify

/-- The server remembers the path of its socket file until the attempt, which is made before any stop
is past it, and every stop has noted the errors that it has met. -/
structure Releasing (path : String) (es : List ServerEvent) (s : Server η) : Prop where
  numbered : ∃ n, ∀ k, (s.progress? k).isSome = true ↔ k < n
  path_eq : s.listener.path = if (attempt? es).isSome then none else some path
  attempted : ∀ k errors, s.progress? k = some (errors, true) → (attempt? es).isSome = true
  errors : ∀ k x, (∃ p, s.progress? k = some p ∧ x ∈ p.1) ↔ ∃ y, x = .io y ∧ Failed es k y

/-- A new server has no stop, and remembers its path. -/
theorem releasing_new {listener : Listener} {handlers : HandlerTable η}
    (hpath : listener.path = some path) : Releasing path [] { listener, handlers } := by
  refine ⟨⟨0, fun k => ?_⟩, hpath, fun k errors hk => ?_, fun k x => ?_⟩
  · simp [progress?]
  · simp [progress?] at hk
  · simp [progress?, Failed, attempt?]

/-! ## Steps -/

/-- A step that is no concern of the listener, and with which no stop gets on. -/
theorem Releasing.kept (h : Releasing path es s) (hc : e.closing? = none)
    (hs : ∀ k x, e ≠ .stop k (.shuts (.error x))) (hl : t.listener = s.listener)
    (hp : t.progress? = s.progress?) : Releasing path (es ++ [e]) t := by
  have hattempt : attempt? (es ++ [e]) = attempt? es := by simp [attempt?_concat, hc]
  refine ⟨?_, ?_, ?_, ?_⟩
  · simpa only [hp] using h.numbered
  · rw [hl, hattempt]
    exact h.path_eq
  · simpa only [hp, hattempt] using h.attempted
  · simpa only [hp, failed_concat hc hs] using h.errors

theorem Releasing.stops_numbered (h : Releasing path es s) : s.stops.Numbered := by
  obtain ⟨n, hn⟩ := h.numbered
  refine Dictionary.numbered_of_contains (n := n) fun k => ?_
  rw [← hn k, progress?, Option.isSome_map]
  rfl

/-- The number of a new stop is that of no other. -/
theorem Releasing.progress?_size (h : Releasing path es s) :
    s.progress? s.stops.size = none ∧ ∀ k, (s.progress? k).isSome = true ↔ k < s.stops.size := by
  refine ⟨?_, fun k => ?_⟩
  · rw [progress?, h.stops_numbered.get?_size]
    rfl
  · rw [progress?, Option.isSome_map]
    exact h.stops_numbered k

/-- A new stop has met no error. -/
theorem Releasing.begun (h : Releasing path es s) (force : Bool) (timeout : Duration) :
    Releasing path (es ++ [.beginStop force timeout])
      (s.setStop s.stops.size { force, timeout }) := by
  obtain ⟨hfresh, hbelow⟩ := h.progress?_size
  have hp := progress?_insert (s := s) (t := s.setStop s.stops.size { force, timeout }) rfl
  have hc : (ServerEvent.beginStop force timeout).closing? = none := rfl
  have hs : ∀ k x, ServerEvent.beginStop force timeout ≠ .stop k (.shuts (.error x)) := by simp
  have hattempt : attempt? (es ++ [.beginStop force timeout]) = attempt? es := by
    simp [attempt?_concat, hc]
  refine ⟨⟨s.stops.size + 1, fun k => ?_⟩, ?_, fun k errors hk => ?_, fun k x => ?_⟩
  · rw [hp]
    split
    · simp only [Option.isSome_some, true_iff]
      omega
    · rw [hbelow]
      omega
  · rw [hattempt]
    exact h.path_eq
  · rw [hp] at hk
    rw [hattempt]
    split at hk
    · simp [Stop.progress, StopPhase.hasClosed] at hk
    · exact h.attempted k errors hk
  · simp only [failed_concat hc hs, ← h.errors k x, hp]
    split
    · subst k
      simp [hfresh, Stop.progress]
    · rfl

/-- The errors of a stop are those that it has met. -/
theorem Releasing.mem_errors_iff (h : Releasing path es s) {k : Nat} {stop : Stop}
    (hk : s.stops.get? k = some stop) (x : Error) :
    x ∈ stop.errors ↔ ∃ y, x = .io y ∧ Failed es k y := by
  rw [← h.errors k x, progress?, hk]
  simp [Stop.progress]

/-- A stop that has closed the listener, or does so, notes what it meets. -/
theorem Releasing.errors_of_noting (h : Releasing path es s) {n : Nat} {stop stop' : Stop}
    {outcome : Except IoError Unit} (hn : s.stops.get? n = some stop)
    (ht : t.stops = s.stops.insert n stop') (hnoted : stop'.errors = (stop.noting outcome).errors)
    {es' : List ServerEvent}
    (hmet : ∀ k x, Failed es' k x ↔ Failed es k x ∨ n = k ∧ outcome = .error x) (k : Nat) (x : Error) :
    (∃ p, t.progress? k = some p ∧ x ∈ p.1) ↔ ∃ y, x = .io y ∧ Failed es' k y := by
  simp only [progress?_insert ht, hmet]
  by_cases hk : n = k
  · subst hk
    simp only [if_pos, Option.some.injEq, exists_eq_left', Stop.progress, hnoted, Stop.mem_noting,
      h.mem_errors_iff hn, true_and, and_or_left, exists_or]
  · simp only [hk, if_false, false_and, or_false]
    exact h.errors k x

/-- A step of a stop that had made steps before keeps the numbers. -/
theorem Releasing.numbered_of_insert (h : Releasing path es s) {n : Nat} {stop stop' : Stop}
    (hn : s.stops.get? n = some stop) (ht : t.stops = s.stops.insert n stop') :
    ∃ m, ∀ k, (t.progress? k).isSome = true ↔ k < m := by
  obtain ⟨m, hm⟩ := h.numbered
  refine ⟨m, fun k => ?_⟩
  rw [progress?_insert ht, ← hm k]
  split
  · subst k
    simp [progress?, hn]
  · rfl

/-- A stop that shuts a connection has closed the listener before. -/
theorem Releasing.shut (h : Releasing path es s) {n : Nat} {stop stop' : Stop}
    {outcome : Except IoError Unit} (hn : s.stops.get? n = some stop)
    (hclosed : stop.phase.hasClosed = true) (hl : t.listener = s.listener)
    (ht : t.stops = s.stops.insert n stop') (hnoted : stop'.errors = (stop.noting outcome).errors) :
    Releasing path (es ++ [.stop n (.shuts outcome)]) t := by
  have hattempt : attempt? (es ++ [.stop n (.shuts outcome)]) = attempt? es := by
    simp [attempt?_concat, ServerEvent.closing?]
  refine ⟨h.numbered_of_insert hn ht, ?_, fun k errors hk => ?_,
    h.errors_of_noting hn ht hnoted fun k x => failed_shuts⟩
  · rw [hl, hattempt]
    exact h.path_eq
  · rw [hattempt]
    rw [progress?_insert ht] at hk
    split at hk
    · exact h.attempted n stop.errors (by rw [progress?, hn, Option.map_some, Stop.progress, hclosed])
    · exact h.attempted k errors hk

/-- Only the attempt can come to an error. -/
theorem Releasing.release_eq_error_iff (h : Releasing path es s) {removal : Listener.Removal}
    {x : IoError} : (s.listener.release removal).1 = .error x ↔
      attempt? es = none ∧ removal = .failed x := by
  unfold Listener.release
  rw [h.path_eq]
  cases attempt? es with
  | none => cases removal <;> simp [Listener.Removal.result]
  | some a => simp

/-- A stop closes the listener. -/
theorem Releasing.closed (h : Releasing path es s) {n : Nat} {stop stop' : Stop}
    (removal : Listener.Removal) (hn : s.stops.get? n = some stop)
    (hl : t.listener = (s.listener.release removal).2) (ht : t.stops = s.stops.insert n stop')
    (hnoted : stop'.errors = (stop.noting (s.listener.release removal).1).errors) :
    Releasing path (es ++ [.stop n (.closes removal)]) t := by
  have hattempt : (attempt? (es ++ [.stop n (.closes removal)])).isSome = true := by
    simp [attempt?_concat, ServerEvent.closing?]
  refine ⟨h.numbered_of_insert hn ht, ?_, fun _ _ _ => hattempt,
    h.errors_of_noting hn ht hnoted fun k x => ?_⟩
  · rw [hl, Listener.release_path, if_pos hattempt]
  · rw [failed_closes, h.release_eq_error_iff]

theorem ServeStep.releasing (h : Releasing path es s) {loop : Nat} {p : ServePhase} {e : ServeEvent}
    (hstep : ServeStep s loop p e t) : Releasing path (es ++ [.serve loop e]) t := by
  have hs : ∀ k x, ServerEvent.serve loop e ≠ .stop k (.shuts (.error x)) := by simp
  cases hstep with
  | notifies => exact h.kept rfl hs rfl progress?_notifyAll
  | _ => exact h.kept rfl hs rfl rfl

theorem StopStep.releasing (h : Releasing path es s) {n : Nat} {stop : Stop} {e : StopEvent}
    (hn : s.stops.get? n = some stop) (hstep : StopStep s n stop e t) :
    Releasing path (es ++ [.stop n e]) t := by
  -- All steps but one leave the stop on the side of the listener's closing where it was.
  have hmoves : ∀ p : StopPhase, p.hasClosed = stop.phase.hasClosed →
      ({ stop with phase := p } : Stop).progress = stop.progress := by
    intro p hp
    rw [Stop.progress, Stop.progress, hp]
  cases hstep with
  | closes removal => exact h.closed removal hn rfl rfl rfl
  | shuts id rest outcome hp => exact h.shut hn (by rw [hp]; rfl) rfl rfl rfl
  | notifies hp =>
    have hn' : s.notifyAll.stops.get? n = some stop.notify := by
      rw [notifyAll_stops, Dictionary.get?_map, hn, Option.map_some]
    refine h.kept rfl (by simp) rfl ((progress?_insert_self hn' rfl ?_).trans progress?_notifyAll)
    rw [Stop.progress_notify]
    exact hmoves _ (by rw [hp]; rfl)
  | lists hp =>
    exact h.kept rfl (by simp) rfl
      (progress?_insert_self hn rfl (hmoves _ (by rw [hp, Stop.hasClosed_turnTo]; rfl)))
  | cancels id rest hp =>
    exact h.kept rfl (by simp) rfl
      (progress?_insert_self hn rfl (hmoves _ (by rw [hp, Stop.hasClosed_turnTo]; rfl)))
  | marks hp | requests hp | waitsForLoops _ _ _ hp | seesNoLoop _ _ hp
  | waitsForConnections _ _ _ _ hp | seesNoConnection _ _ _ hp | flags _ _ hp | lingers _ hp
  | givesUp _ _ _ hp =>
    exact h.kept rfl (by simp) rfl (progress?_insert_self hn rfl (hmoves _ (by rw [hp]; rfl)))

/-- **Every step of any task keeps the attempt and the errors on record.** -/
theorem Releasing.step (h : Releasing path es s) (hstep : Step s e t) :
    Releasing path (es ++ [e]) t := by
  cases hstep with
  | serve _ _ _ _ _ hstep => exact hstep.releasing h
  | stop _ _ _ _ hn hstep => exact hstep.releasing h hn
  | beginStop force timeout => exact h.begun force timeout
  | announces => exact h.kept rfl (by simp) rfl progress?_notifyAll
  | beginServe | connection | untracks => exact h.kept rfl (by simp) rfl rfl

theorem Releasing.steps (h : Releasing path es s) {more : List ServerEvent}
    (hs : s.steps? more = some t) : Releasing path (es ++ more) t := by
  induction more generalizing s es with
  | nil =>
    cases hs
    rw [List.append_nil]
    exact h
  | cons e more ih =>
    obtain ⟨u, hu, hs⟩ := Option.bind_eq_some_iff.mp hs
    rw [List.append_cons]
    exact ih (h.step (step?_eq_some_iff.mp hu)) hs

/-! ## Success -/

theorem Releasing.result_eq_ok_iff (h : Releasing path es s) {k : Nat} {stop : Stop}
    (hk : s.stops.get? k = some stop) : stop.result = .ok () ↔ ∀ x, ¬ Failed es k x := by
  rw [Stop.result_eq_ok_iff, List.eq_nil_iff_forall_not_mem]
  simp only [h.mem_errors_iff hk]
  constructor
  · intro hnone x hx
    exact hnone (.io x) ⟨x, rfl, hx⟩
  · rintro hnone x ⟨y, _, hy⟩
    exact hnone y hy

/-- A server with a socket file is run in any way, and a stop of it has finished.  Then the listener was
closed, and only the first time was the file to be removed: the path is forgotten, whatever came of
that, and neither a further stop nor the listener's end removes anything.  The stop is a success if it
could shut its connections and, in case it was the one to close the listener first, the file was
removed or gone.  The success of any other stop says nothing of the file. -/
theorem stop_succeeds_iff {listener : Listener} {handlers : HandlerTable η} {path : String}
    (hpath : listener.path = some path) {es : List ServerEvent} {t : Server η}
    (hrun : ({ listener, handlers } : Server η).steps? es = some t) {k : Nat} {stop : Stop}
    (hstop : t.stops.get? k = some stop) (hdone : stop.phase = .finished) :
    ∃ n removal, attempt? es = some (n, removal) ∧
      (∀ x, x ∈ stop.errors ↔ ∃ y, x = .io y ∧ Failed es k y) ∧
      (stop.result = .ok () ↔ (n = k → removal.result = .ok ()) ∧
        ∀ x, .stop k (.shuts (.error x)) ∉ es) ∧
      (∀ h, t.listener.unlink h = (.ok (), t.listener, h)) ∧
      ∀ h, (t.listener.drop h).files = h.files := by
  have hreleasing : Releasing path es t := (releasing_new hpath).steps hrun
  have hattempt := hreleasing.attempted k stop.errors
    (by rw [progress?, hstop, Option.map_some, Stop.progress, hdone]; rfl)
  have hnone : t.listener.path = none := by rw [hreleasing.path_eq, if_pos hattempt]
  obtain ⟨⟨n, removal⟩, ha⟩ := Option.isSome_iff_exists.mp hattempt
  refine ⟨n, removal, ha, hreleasing.mem_errors_iff hstop, ?_,
    fun h => Listener.unlink_of_path_eq_none hnone, fun h => Listener.drop_of_path_eq_none hnone⟩
  rw [hreleasing.result_eq_ok_iff hstop]
  simp only [Failed, ha, Option.some.injEq, Prod.mk.injEq, not_or, forall_and]
  refine and_congr_left fun _ => ?_
  cases removal <;> simp [Listener.Removal.result]

/-- A forced stop of a server without connections, from its start to its end. -/
def forcedStop (n : Nat) (removal : Listener.Removal) : List ServerEvent :=
  [.beginStop true .zero, .stop n .marks, .stop n .notifies, .stop n .requests,
    .stop n (.closes removal), .stop n (.waits .registers), .stop n (.waits .checks), .stop n .lists]

/-- Two stops, one after the other, of which neither could remove the socket file. -/
def twiceStopped : List ServerEvent :=
  forcedStop 0 (.failed (.system .isDirectory)) ++ forcedStop 1 (.failed (.system .isDirectory))

theorem removal_of_twiceStopped {n : Nat} {removal : Listener.Removal}
    (h : .stop n (.closes removal) ∈ twiceStopped) : removal = .failed (.system .isDirectory) := by
  simp only [twiceStopped, forcedStop, List.cons_append, List.nil_append, List.mem_cons,
    ServerEvent.stop.injEq, StopEvent.closes.injEq, reduceCtorEq, and_false, false_or,
    List.not_mem_nil, or_false] at h
  rcases h with ⟨_, rfl⟩ | ⟨_, rfl⟩ <;> rfl

theorem twiceStopped_spec : ∃ (t : Server Unit) (first second : Stop),
    ({ listener := ⟨0, some "/run/fsidd.sock"⟩ } : Server Unit).steps? twiceStopped = some t ∧
      t.stops.get? 0 = some first ∧ first.phase = .finished ∧
      first.result = .error (.io (.system .isDirectory)) ∧
      t.stops.get? 1 = some second ∧ second.phase = .finished ∧ second.result = .ok () :=
  ⟨_, _, _, rfl, rfl, rfl, rfl, rfl, rfl, rfl⟩

/-- The second stop closes a listener that has forgotten its path. -/
theorem stop_succeeds_iff_twice : ∃ (t : Server Unit) (stop : Stop),
    ({ listener := ⟨0, some "/run/fsidd.sock"⟩ } : Server Unit).steps? twiceStopped = some t ∧
      t.stops.get? 1 = some stop ∧ stop.phase = .finished ∧ ∃ n removal,
        attempt? twiceStopped = some (n, removal) ∧
        (∀ x, x ∈ stop.errors ↔ ∃ y, x = .io y ∧ Failed twiceStopped 1 y) ∧
        (stop.result = .ok () ↔ (n = 1 → removal.result = .ok ()) ∧
          ∀ x, .stop 1 (.shuts (.error x)) ∉ twiceStopped) ∧
        (∀ h, t.listener.unlink h = (.ok (), t.listener, h)) ∧
        ∀ h, (t.listener.drop h).files = h.files := by
  obtain ⟨t, _, second, hrun, _, _, _, hsecond, hdone, _⟩ := twiceStopped_spec
  exact ⟨t, second, hrun, hsecond, hdone, stop_succeeds_iff rfl hrun hsecond hdone⟩

/-- A stop cannot remove the socket file and fails.  The next one does not try again: it is a success,
though the file was never removed. -/
theorem stop_forgets_failed_removal :
    (∀ n removal, .stop n (.closes removal) ∈ twiceStopped →
      removal = .failed (.system .isDirectory)) ∧
    ∃ (t : Server Unit) (first second : Stop),
      ({ listener := ⟨0, some "/run/fsidd.sock"⟩ } : Server Unit).steps? twiceStopped = some t ∧
      t.stops.get? 0 = some first ∧ first.phase = .finished ∧
      first.result = .error (.io (.system .isDirectory)) ∧
      t.stops.get? 1 = some second ∧ second.phase = .finished ∧ second.result = .ok () :=
  ⟨fun _ _ => removal_of_twiceStopped, twiceStopped_spec⟩

end Server

end FsidRegistry

import FsidRegistry.Proofs.Host.Binding

/-!
# How long a socket file stays

Listeners are bound, unlinked, closed and dropped on one host, and nothing else touches its files.  A
listener that is bound makes a socket file, and remembers no more of it than its path.

* `ListenerPool.step`, `ListenerPool.run`: what the listeners of a host do.
* `ListenerPool.Clears`, `ListenerPool.Cleared`: an event clears a place, and so does a run.
* `ListenerPool.Effect`, `ListenerPool.Owned.effect`: a step leaves the files, or makes or removes the
  socket file at the one place that it clears.
* `ListenerPool.file_stays_iff_not_cleared`: a socket file stays until a bind or another listener's
  end clears its place, and no longer.
* `ListenerPool.older_listener_removes_file`: an older listener's end does clear it.
-/

namespace FsidRegistry

/-! ## Listeners of one host -/

/-- The listeners of a host, by number. -/
structure ListenerPool where
  host : Host
  listeners : Dictionary Nat Listener := ∅
  next : Nat := 0

/-- What is done with the listeners of a host. -/
inductive ListenerEvent
  | binds (path : String)
  | unlinks (id : Nat)
  | closes (id : Nat)
  | drops (id : Nat)

namespace ListenerPool

/-- One event. A bind that fails makes no listener; nothing comes of a number without a listener. -/
def step (s : ListenerPool) : ListenerEvent → ListenerPool
  | .binds path =>
    match Listener.bind s.host path with
    | (.ok l, host) => { host, listeners := s.listeners.insert s.next l, next := s.next + 1 }
    | (.error _, host) => { s with host }
  | .unlinks id =>
    match s.listeners.get? id with
    | some l =>
      let (_, l, host) := l.unlink s.host
      { s with host, listeners := s.listeners.insert id l }
    | none => s
  | .closes id =>
    match s.listeners.get? id with
    | some l =>
      let (_, l, host) := l.close s.host
      { s with host, listeners := s.listeners.insert id l }
    | none => s
  | .drops id =>
    match s.listeners.get? id with
    | some l => { s with host := l.drop s.host, listeners := s.listeners.erase id }
    | none => s

/-- Events one after another. -/
def run (s : ListenerPool) : List ListenerEvent → ListenerPool
  | [] => s
  | e :: events => run (s.step e) events

/-- The path leads to the place. -/
def Names (s : ListenerPool) (path : String) (place : Place) : Prop :=
  ∃ x, s.host.files.find false path = .ok (place, x)

/-- The event clears a place: a bind clears where its path leads to, and the end of a listener where
the path that it still remembers leads to. -/
def Clears (s : ListenerPool) (place : Place) : ListenerEvent → Prop
  | .binds path => path.contains '\x00' = false ∧ s.Names path place
  | .unlinks id | .closes id | .drops id =>
    ∃ l path, s.listeners.get? id = some l ∧ l.path = some path ∧ s.Names path place

/-- One of the events clears the place. -/
def Cleared (s : ListenerPool) (place : Place) : List ListenerEvent → Prop
  | [] => False
  | e :: events => s.Clears place e ∨ Cleared (s.step e) place events

/-- Where the path of a listener leads, there is a socket file or nothing. -/
def Owned (s : ListenerPool) : Prop :=
  ∀ ⦃id l path place x⦄, s.listeners.get? id = some l → l.path = some path →
    s.host.files.find false path = .ok (place, x) → Entry.lasting? x = none

variable {s s' : ListenerPool} {e : ListenerEvent} {id : Nat} {l : Listener} {place : Place}
variable {path : String} {n : Nat}

theorem Names.eq {place' : Place} (h : s.Names path place) (h' : s.Names path place') :
    place' = place := by
  obtain ⟨x, hx⟩ := h
  obtain ⟨x', hx'⟩ := h'
  exact (Prod.mk.inj (Except.ok.inj (hx'.symm.trans hx))).1

/-- An event clears one place at most. -/
theorem Clears.eq {place' : Place} (h : s.Clears place e) (h' : s.Clears place' e) :
    place' = place := by
  have hend : ∀ {id}, (∃ l path, s.listeners.get? id = some l ∧ l.path = some path ∧
      s.Names path place) → (∃ l path, s.listeners.get? id = some l ∧ l.path = some path ∧
      s.Names path place') → place' = place := by
    rintro id ⟨l, path, hl, hpath, hnames⟩ ⟨l', path', hl', hpath', hnames'⟩
    obtain rfl : l' = l := Option.some.inj (hl'.symm.trans hl)
    obtain rfl : path' = path := Option.some.inj (hpath'.symm.trans hpath)
    exact hnames.eq hnames'
  cases e with
  | binds path => exact h.2.eq h'.2
  | unlinks id => exact hend h h'
  | closes id => exact hend h h'
  | drops id => exact hend h h'

/-- What an event does to the files. -/
inductive Effect (s : ListenerPool) (e : ListenerEvent) (s' : ListenerPool) : Prop
  /-- The files stay. A place that the event was to clear holds what is no socket file. -/
  | kept (hfiles : s'.host.files = s.host.files)
      (hlasting : ∀ {place}, s.Clears place e →
        ∃ x, Entry.lasting? (s.host.files.entry? place) = some x)
  /-- The place that the event clears is empty then, or holds the file of a new socket. -/
  | changed {place : Place} {x : Option Entry} (hclears : s.Clears place e)
      (hwas : Entry.lasting? (s.host.files.entry? place) = none)
      (hx : x = none ∨ x = some (.socket s.host.nextSocket))
      (hfiles : s.host.files.Becomes place x s'.host.files)

theorem Effect.sameTree (h : Effect s e s') : s.host.files.SameTree s'.host.files := by
  cases h with
  | kept hfiles _ =>
    rw [hfiles]
    exact Files.SameTree.refl
  | changed _ hwas hx hfiles =>
    refine hfiles.sameTree hwas ?_
    obtain rfl | rfl := hx <;> rfl

/-- A listener's end removes the file at its path. -/
theorem Owned.effect_of_end (ho : Owned s) (hl : s.listeners.get? id = some l)
    (hclears : ∀ {place}, s.Clears place e ↔ ∃ l path, s.listeners.get? id = some l ∧
      l.path = some path ∧ s.Names path place)
    (hfiles : s'.host.files = (l.removal s.host).2.files) : Effect s e s' := by
  unfold Listener.removal at hfiles
  cases hpath : l.path with
  | none =>
    rw [hpath] at hfiles
    refine .kept hfiles fun hcl => ?_
    obtain ⟨l', path, hl', hpath', _⟩ := hclears.mp hcl
    obtain rfl : l' = l := Option.some.inj (hl'.symm.trans hl)
    rw [hpath] at hpath'
    cases hpath'
  | some path =>
    rw [hpath] at hfiles
    cases hfind : s.host.files.find false path with
    | error err =>
      rw [Listener.removeFile_eq hfind] at hfiles
      refine .kept hfiles fun hcl => ?_
      obtain ⟨l', path', hl', hpath', x, hfind'⟩ := hclears.mp hcl
      obtain rfl : l' = l := Option.some.inj (hl'.symm.trans hl)
      obtain rfl : path' = path := Option.some.inj (hpath'.symm.trans hpath)
      rw [hfind] at hfind'
      cases hfind'
    | ok r =>
      obtain ⟨place, x⟩ := r
      have hx := ho hl hpath hfind
      refine .changed (hclears.mpr ⟨l, path, hl, hpath, x, hfind⟩) ?_ (.inl rfl) ?_
      · rw [← Files.eq_of_find hfind]
        exact hx
      · rw [hfiles]
        exact Listener.removeFile_becomes hfind hx

theorem step_binds_host : (s.step (.binds path)).host = (Listener.bind s.host path).2 := by
  rw [step]
  split <;> simp_all

/-- An event leaves the files or changes the one place that it clears. -/
theorem Owned.effect (ho : Owned s) (e : ListenerEvent) : Effect s e (s.step e) := by
  have hnone : ∀ {id}, s.listeners.get? id = none → (∀ {place}, s.Clears place e ↔
      ∃ l path, s.listeners.get? id = some l ∧ l.path = some path ∧ s.Names path place) →
      Effect s e s := by
    intro id hl hclears
    refine .kept rfl fun hcl => ?_
    obtain ⟨l, _, hl', _⟩ := hclears.mp hcl
    rw [hl] at hl'
    cases hl'
  cases e with
  | binds path =>
    have hb := Listener.binding s.host path
    rw [← step_binds_host] at hb
    revert hb
    generalize (Listener.bind s.host path).1 = r
    generalize hhost : (s.step (.binds path)).host = host
    intro hb
    cases hb with
    | refused hkept =>
      refine .kept (by rw [hhost]) fun hcl => ?_
      obtain ⟨hnul, x, hfind⟩ := hcl
      rw [← Files.eq_of_find hfind]
      exact hkept hnul hfind
    | cleared hnul _ hfind hx hfiles _ =>
      refine .changed ⟨hnul, _, hfind⟩ ?_ (.inl rfl) (hhost ▸ hfiles)
      rw [← Files.eq_of_find hfind]
      exact hx
    | unnamed hpath hfiles _ =>
      refine .kept (by rw [hhost, hfiles]) fun hcl => ?_
      obtain ⟨_, x, hfind⟩ := hcl
      rw [hpath, Listener.find_empty] at hfind
      cases hfind
    | bound hnul hfind hx hfiles _ =>
      refine .changed ⟨hnul, _, hfind⟩ ?_ (.inr rfl) (hhost ▸ hfiles)
      rw [← Files.eq_of_find hfind]
      exact hx
  | unlinks id =>
    rw [step]
    cases hl : s.listeners.get? id with
    | none => exact hnone hl Iff.rfl
    | some l => exact ho.effect_of_end hl Iff.rfl rfl
  | closes id =>
    rw [step]
    cases hl : s.listeners.get? id with
    | none => exact hnone hl Iff.rfl
    | some l => exact ho.effect_of_end hl Iff.rfl Host.shutdownListening_files.1
  | drops id =>
    rw [step]
    cases hl : s.listeners.get? id with
    | none => exact hnone hl Iff.rfl
    | some l => exact ho.effect_of_end hl Iff.rfl Host.closeSocket_files.1

/-- A listener that still remembers a path after an event did so before, or was bound there by it. -/
theorem step_listeners (hl : (s.step e).listeners.get? id = some l) (hpath : l.path = some path) :
    s.listeners.get? id = some l ∨
      ∃ path', e = .binds path' ∧ (Listener.bind s.host path').1 = .ok l := by
  -- The end of a listener leaves it without a path.
  have hend : ∀ {id' : Nat} {k l' : Listener} {host : Host}, l' = (k.unlink host).2.1 →
      (s.listeners.insert id' l').get? id = some l → s.listeners.get? id = some l := by
    rintro id' k l' host rfl hget
    rw [Dictionary.get?_insert] at hget
    by_cases hid : id' = id
    · rw [if_pos hid] at hget
      obtain rfl := Option.some.inj hget
      rw [Listener.unlink_path] at hpath
      cases hpath
    · rwa [if_neg hid] at hget
  cases e with
  | binds path' =>
    rw [step] at hl
    split at hl
    · rename_i l' host hb
      dsimp only at hl
      rw [Dictionary.get?_insert] at hl
      by_cases hid : s.next = id
      · rw [if_pos hid] at hl
        obtain rfl := Option.some.inj hl
        exact .inr ⟨path', rfl, by rw [hb]⟩
      · rw [if_neg hid] at hl
        exact .inl hl
    · exact .inl hl
  | unlinks id' =>
    rw [step] at hl
    split at hl
    · exact .inl (hend rfl hl)
    · exact .inl hl
  | closes id' =>
    rw [step] at hl
    split at hl
    · exact .inl (hend rfl hl)
    · exact .inl hl
  | drops id' =>
    rw [step] at hl
    split at hl
    · dsimp only at hl
      rw [Dictionary.get?_erase] at hl
      by_cases hid : id' = id
      · rw [if_pos hid] at hl
        cases hl
      · rw [if_neg hid] at hl
        exact .inl hl
    · exact .inl hl

theorem Owned.step (ho : Owned s) (e : ListenerEvent) : Owned (s.step e) := by
  intro id l path place x hl hpath hfind
  have htree := (ho.effect e).sameTree
  have hback := htree.symm.find hfind
  rw [Files.eq_of_find hfind, htree place]
  obtain hold | ⟨path', rfl, hb⟩ := step_listeners hl hpath
  · exact ho hold hpath hback
  · obtain ⟨rfl, _, hx⟩ := Listener.bind_ok (Prod.ext hb rfl)
    obtain rfl := Option.some.inj hpath
    exact hx hback

theorem Owned.run (ho : Owned s) (events : List ListenerEvent) : Owned (s.run events) := by
  induction events generalizing s with
  | nil => exact ho
  | cons e events ih => exact ih (ho.step e)

/-- The trees before and after a run differ in socket files only. -/
theorem Owned.sameTree (ho : Owned s) (events : List ListenerEvent) :
    s.host.files.SameTree (s.run events).host.files := by
  induction events generalizing s with
  | nil => exact Files.SameTree.refl
  | cons e events ih => exact (ho.effect e).sameTree.trans (ih (ho.step e))

/-- The numbers of sockets only grow. -/
theorem step_nextSocket : s.host.nextSocket ≤ (s.step e).host.nextSocket := by
  have hend : ∀ {k : Listener}, (k.removal s.host).2.nextSocket = s.host.nextSocket := by
    intro k
    unfold Listener.removal
    split
    · exact Listener.removeFile_nextSocket
    · rfl
  cases e with
  | binds path =>
    have hb := Listener.binding s.host path
    rw [← step_binds_host] at hb
    revert hb
    generalize (Listener.bind s.host path).1 = r
    generalize (s.step (.binds path)).host = host
    intro hb
    cases hb with
    | refused => exact Nat.le_refl _
    | cleared _ _ _ _ _ hnext => exact Nat.le_of_eq hnext.symm
    | unnamed _ _ hnext => exact hnext ▸ Nat.le_succ _
    | bound _ _ _ _ hnext => exact hnext ▸ Nat.le_succ _
  | unlinks id =>
    rw [ListenerPool.step]
    split
    · exact Nat.le_of_eq hend.symm
    · exact Nat.le_refl _
  | closes id =>
    rw [ListenerPool.step]
    split
    · exact Nat.le_of_eq (Host.shutdownListening_files.2.trans hend).symm
    · exact Nat.le_refl _
  | drops id =>
    rw [ListenerPool.step]
    split
    · exact Nat.le_of_eq (Host.closeSocket_files.2.trans hend).symm
    · exact Nat.le_refl _

/-! ## How long a file stays -/

/-- A socket file that is gone does not come back: every new one has a new number. -/
theorem Owned.stays_gone (ho : Owned s) (hn : n < s.host.nextSocket)
    (hgone : s.host.files.entry? place ≠ some (.socket n)) (events : List ListenerEvent) :
    (s.run events).host.files.entry? place ≠ some (.socket n) := by
  induction events generalizing s with
  | nil => exact hgone
  | cons e events ih =>
    refine ih (ho.step e) (Nat.lt_of_lt_of_le hn step_nextSocket) ?_
    cases ho.effect e with
    | kept hfiles _ =>
      rw [hfiles]
      exact hgone
    | changed _ _ hx hfiles =>
      rw [hfiles place]
      split
      · obtain rfl | rfl := hx
        · rintro ⟨⟩
        · intro heq
          cases heq
          exact Nat.lt_irrefl _ hn
      · exact hgone

/-- A socket file stays through an event if and only if the event does not clear its place. -/
theorem Owned.step_stays_iff (ho : Owned s) (hn : n < s.host.nextSocket)
    (hat : s.host.files.entry? place = some (.socket n)) :
    (s.step e).host.files.entry? place = some (.socket n) ↔ ¬ s.Clears place e := by
  cases ho.effect e with
  | kept hfiles hlasting =>
    rw [hfiles]
    refine iff_of_true hat fun hcl => ?_
    obtain ⟨x, hx⟩ := hlasting hcl
    rw [hat] at hx
    cases hx
  | @changed place' x hclears hwas hx hfiles =>
    rw [hfiles place]
    by_cases hp : place' = place
    · subst hp
      rw [if_pos rfl]
      refine iff_of_false ?_ (fun hnot => hnot hclears)
      obtain rfl | rfl := hx
      · rintro ⟨⟩
      · intro heq
        cases heq
        exact Nat.lt_irrefl _ hn
    · rw [if_neg hp]
      exact iff_of_true hat fun hcl => hp (hcl.eq hclears)

theorem Owned.stays_iff (ho : Owned s) (hn : n < s.host.nextSocket)
    (hat : s.host.files.entry? place = some (.socket n)) (events : List ListenerEvent) :
    (s.run events).host.files.entry? place = some (.socket n) ↔ ¬ s.Cleared place events := by
  induction events generalizing s with
  | nil => exact iff_of_true hat not_false
  | cons e events ih =>
    have hn' : n < (s.step e).host.nextSocket := Nat.lt_of_lt_of_le hn step_nextSocket
    rw [Cleared, not_or]
    by_cases hcl : s.Clears place e
    · refine iff_of_false ?_ fun hnot => hnot.1 hcl
      refine (ho.step e).stays_gone hn' (fun hat' => ?_) events
      exact (ho.step_stays_iff hn hat).mp hat' hcl
    · rw [and_iff_right hcl]
      exact ih (ho.step e) hn' ((ho.step_stays_iff hn hat).mpr hcl)

/-- A run of two lists of events is a run of one after the other. -/
theorem run_append (s : ListenerPool) (events events' : List ListenerEvent) :
    s.run (events ++ events') = (s.run events).run events' := by
  induction events generalizing s with
  | nil => rfl
  | cons e events ih => exact ih (s.step e)

/-- A path of one name is bound, and leads to the new socket then. -/
theorem bind_s {h : Host} (hx : Entry.lasting? (h.files.entry? ["s"]) = none) :
    ∃ h', Listener.bind h "s" = (.ok ⟨h.nextSocket, some "s"⟩, h') ∧
      h'.nextSocket = h.nextSocket + 1 ∧ h'.files.entry? ["s"] = some (.socket h.nextSocket) := by
  have hfind := Files.find_s hx
  obtain ⟨h', hb⟩ := Listener.bind_of_valid Host.checkSocketPath_s hfind hx
  obtain ⟨_, hnext, _⟩ := Listener.bind_ok hb
  refine ⟨h', hb, hnext, ?_⟩
  have hbinding := Listener.binding h "s"
  rw [hb] at hbinding
  cases hbinding with
  | unnamed hempty => exact absurd hempty (by decide)
  | @bound _ place _ _ hfind' _ hfiles _ =>
    obtain ⟨rfl, _⟩ := Prod.mk.inj (Except.ok.inj (hfind.symm.trans hfind'))
    rw [hfiles ["s"], if_pos rfl]

/-- Two listeners were bound at one path. -/
def twiceBound : ListenerPool := run { host := { files := ⟨∅⟩ } } [.binds "s", .binds "s"]

/-- Both remember the path, and it leads to the socket of the second one. -/
theorem twiceBound_spec :
    (∃ host, Listener.bind (run { host := { files := ⟨∅⟩ } } [.binds "s"]).host "s" =
      (.ok ⟨1, some "s"⟩, host)) ∧
    twiceBound.listeners.get? 0 = some ⟨0, some "s"⟩ ∧
    twiceBound.listeners.get? 1 = some ⟨1, some "s"⟩ ∧
    twiceBound.host.files.find false "s" = .ok (["s"], some (.socket 1)) := by
  obtain ⟨host, hb, hnext, hat⟩ := bind_s (h := { files := ⟨∅⟩ }) rfl
  obtain ⟨host', hb', _, hat'⟩ := bind_s (h := host) (by rw [hat]; rfl)
  rw [hnext] at hb' hat'
  have honce : run { host := { files := ⟨∅⟩ } } [.binds "s"] =
      ⟨host, (∅ : Dictionary Nat Listener).insert 0 ⟨0, some "s"⟩, 1⟩ := by
    rw [run, run, step, hb]
  have htwice : twiceBound = ⟨host', ((∅ : Dictionary Nat Listener).insert 0 ⟨0, some "s"⟩).insert 1
      ⟨1, some "s"⟩, 2⟩ := by
    rw [show twiceBound = (run { host := { files := ⟨∅⟩ } } [.binds "s"]).step (.binds "s") from rfl,
      honce, step, hb']
  rw [honce, htwice]
  refine ⟨⟨host', hb'⟩, rfl, rfl, ?_⟩
  rw [Files.find_s (by rw [hat']; rfl), hat']

/-- Listeners are bound, unlinked, closed and dropped on a host whose files nothing else changes. The
file of the last listener bound at a path is at the path as long as no event clears the place where
the path leads to: no further bind, whether or not it succeeds, and no end of a listener that still
remembers a path to the place, be it this listener or an older one. -/
theorem file_stays_iff_not_cleared (host : Host) (before : List ListenerEvent) {path : String}
    {l : Listener} {host' : Host} (hpath : path ≠ "")
    (hb : Listener.bind (run { host } before).host path = (.ok l, host')) :
    ∃ place, (run { host } (before ++ [.binds path])).Names path place ∧ ∀ after,
      ((run { host } (before ++ .binds path :: after)).host.files.find false path =
          .ok (place, some (.socket l.socket)) ↔
        ¬ (run { host } (before ++ [.binds path])).Cleared place after) := by
  have hnone : Owned { host } := by
    intro id l path place x hl
    cases hl
  have ho := (hnone.run before).step (.binds path)
  have hrun : ∀ after, run { host } (before ++ .binds path :: after) =
      ((run { host } before).step (.binds path)).run after := fun _ => run_append _ _ _
  have hlast : run { host } (before ++ [.binds path]) =
      (run { host } before).step (.binds path) := run_append _ _ _
  rw [hlast]
  simp only [hrun]
  generalize run { host } before = s at hb ho ⊢
  have hhost : (s.step (.binds path)).host = host' := by rw [step_binds_host, hb]
  obtain ⟨place, hfind⟩ := Listener.find_of_bind hpath hb
  have hn : l.socket < host'.nextSocket := by
    obtain ⟨rfl, hnext, _⟩ := Listener.bind_ok hb
    rw [hnext]
    exact Nat.lt_succ_self _
  rw [← hhost] at hfind hn
  refine ⟨place, ⟨_, hfind⟩, fun after => ?_⟩
  refine Iff.trans ?_ (ho.stays_iff hn (Files.eq_of_find hfind).symm after)
  rw [(ho.sameTree after).find hfind]
  constructor
  · intro heq
    exact (Prod.mk.inj (Except.ok.inj heq)).2
  · intro heq
    rw [heq]

/-- The first of two listeners on one path is dropped: its path led to the file of the second. -/
theorem file_stays_iff_not_cleared_twice_bound :
    ∃ place, twiceBound.Names "s" place ∧
      ((twiceBound.step (.drops 0)).host.files.find false "s" = .ok (place, some (.socket 1)) ↔
        ¬ twiceBound.Cleared place [.drops 0]) := by
  obtain ⟨⟨host, hb⟩, _⟩ := twiceBound_spec
  obtain ⟨place, hnames, hstays⟩ :=
    file_stays_iff_not_cleared { files := ⟨∅⟩ } [.binds "s"] (by decide) hb
  exact ⟨place, hnames, hstays [.drops 0]⟩

/-- An older listener that is dropped takes the file of the listener that owns the path. -/
theorem older_listener_removes_file :
    twiceBound.listeners.get? 1 = some ⟨1, some "s"⟩ ∧
      twiceBound.host.files.find false "s" = .ok (["s"], some (.socket 1)) ∧
      (twiceBound.step (.drops 0)).listeners.get? 1 = some ⟨1, some "s"⟩ ∧
      (twiceBound.step (.drops 0)).host.files.find false "s" = .ok (["s"], none) := by
  obtain ⟨_, hfirst, hsecond, hfind⟩ := twiceBound_spec
  have hdrop : twiceBound.step (.drops 0) = { twiceBound with
      host := Listener.drop ⟨0, some "s"⟩ twiceBound.host,
      listeners := twiceBound.listeners.erase 0 } := by
    rw [step, hfirst]
  have hgone := Listener.removeFile_becomes hfind rfl ["s"]
  have hfiles : (Listener.drop ⟨0, some "s"⟩ twiceBound.host).files =
      (Listener.removeFile twiceBound.host "s").2.files := Host.closeSocket_files.1
  rw [if_pos rfl, ← hfiles] at hgone
  rw [hdrop]
  refine ⟨hsecond, hfind, ?_, ?_⟩
  · rw [Dictionary.get?_erase, if_neg (by decide)]
    exact hsecond
  · dsimp only
    rw [Files.find_s (by rw [hgone]; rfl), hgone]

end ListenerPool

end FsidRegistry

import FsidRegistry.Proofs.Host.SocketFiles

/-!
# What a bind replaces

A bind first makes room at its path: it removes a socket file that is there, and refuses anything else.
Only then does it turn the path into the address of a socket.  It never asks whether anybody listens on
the socket whose file it removes, and the removal stands if the path turns out to be too long.

* `Listener.Room`: where the path leads there is nothing, or a socket file, in use or not.
* `Listener.bind_isOk_iff`: a bind succeeds if its path is short enough and there is room; the empty
  path needs none.
* `Listener.Room.bind_becomes`, `Listener.bind_files`: where there is room, that place alone changes;
  without room no file changes.
* `Listener.bind_sockets`: the other sockets stay as they are, so who listened goes on listening.
* `Listener.bind_replaces_socket_files`: all of this together.
* `Listener.bind_replaces_live_socket`: the path of a listening socket is taken from it.
-/

namespace FsidRegistry

/-- Only a socket file does not last. -/
theorem Entry.lasting?_eq_none_iff {x : Option Entry} :
    Entry.lasting? x = none ↔ x = none ∨ ∃ id, x = some (.socket id) := by
  rcases x with _ | _ | _ | _ | _ | _ <;> simp [Entry.lasting?]

/-- What can be the address of a socket. -/
theorem Host.checkSocketPath_eq_ok_iff {path : String} :
    Host.checkSocketPath path = .ok () ↔
      path.contains '\x00' = false ∧ path.utf8ByteSize ≤ Host.socketPathLimit := by
  unfold Host.checkSocketPath
  split
  · simp_all
  · split
    · simp_all
    · simp_all

namespace Listener

variable {h h' : Host} {path : String} {place : Place} {x : Option Entry}

/-- There is room for a socket file where the path leads: nothing is there, or a socket file, whoever
listens on that socket. -/
structure Room (h : Host) (path : String) (place : Place) (x : Option Entry) : Prop where
  no_nul : path.contains '\x00' = false
  found : h.files.find false path = .ok (place, x)
  free : x = none ∨ ∃ id, x = some (.socket id)

/-- What a bind leaves where there was room: the file of the new socket, or nothing if the path is too
long for the address of a socket. -/
def leaves (h : Host) (path : String) : Option Entry :=
  if path.utf8ByteSize ≤ Host.socketPathLimit then some (.socket h.nextSocket) else none

theorem Room.place_eq (hroom : Room h path place x) {place' : Place} {x' : Option Entry}
    (hfind : h.files.find false path = .ok (place', x')) : place' = place := by
  have heq := hroom.found.symm.trans hfind
  simp only [Except.ok.injEq, Prod.mk.injEq] at heq
  exact heq.1.symm

theorem Room.ne_empty (hroom : Room h path place x) : path ≠ "" := by
  rintro rfl
  have hfind := hroom.found
  rw [find_empty] at hfind
  cases hfind

/-- A path that is bound can be the address of a socket. -/
theorem valid_of_bind {l : Listener} (hb : bind h path = (.ok l, h')) :
    Host.checkSocketPath path = .ok () := by
  unfold bind at hb
  split at hb
  · cases hb
  · split at hb
    · cases hb
    · rename_i hbind
      unfold Host.bind at hbind
      cases hvalid : Host.checkSocketPath path with
      | error e =>
        rw [hvalid] at hbind
        cases hbind
      | ok u => rfl

theorem checkSocketPath_empty : Host.checkSocketPath "" = .ok () :=
  Host.checkSocketPath_eq_ok_iff.mpr ⟨by simp [String.contains_char_eq], by decide⟩

/-- The empty path is bound without a file. -/
theorem bind_empty : (bind h "").1 = .ok ⟨h.nextSocket, some ""⟩ := by
  have hnul := Host.no_nul checkSocketPath_empty
  simp only [bind, clearPath, hnul, Bool.false_eq_true, if_false, find_empty, if_true]
  simp only [Host.bind, checkSocketPath_empty]
  rfl

/-- A bind succeeds if its path is empty, or short enough with room where it leads. -/
theorem bind_isOk_iff : (∃ l, (bind h path).1 = .ok l) ↔
    path = "" ∨ path.utf8ByteSize ≤ Host.socketPathLimit ∧ ∃ place x, Room h path place x := by
  constructor
  · rintro ⟨l, hl⟩
    have hbinding := binding h path
    cases hr : bind h path with
    | mk r h' =>
      rw [hr] at hbinding hl
      obtain rfl : r = .ok l := hl
      cases hbinding with
      | unnamed hpath => exact .inl hpath
      | bound hnul hfind hx =>
        have hshort := (Host.checkSocketPath_eq_ok_iff.mp (valid_of_bind hr)).2
        exact .inr ⟨hshort, _, _, hnul, hfind, Entry.lasting?_eq_none_iff.mp hx⟩
  · rintro (rfl | ⟨hshort, place, x, hroom⟩)
    · exact ⟨_, bind_empty⟩
    · have hvalid := Host.checkSocketPath_eq_ok_iff.mpr ⟨hroom.no_nul, hshort⟩
      obtain ⟨h', hb⟩ := bind_of_valid hvalid hroom.found (Entry.lasting?_eq_none_iff.mpr hroom.free)
      rw [hb]
      exact ⟨_, rfl⟩

/-- Where there is room, that place changes and no other. -/
theorem Room.bind_becomes (hroom : Room h path place x) :
    h.files.Becomes place (leaves h path) (bind h path).2.files := by
  have hbinding := binding h path
  cases hr : bind h path with
  | mk r h' =>
    rw [hr] at hbinding
    cases hbinding with
    | refused hkept =>
      obtain ⟨e, he⟩ := hkept hroom.no_nul hroom.found
      rw [Entry.lasting?_eq_none_iff.mpr hroom.free] at he
      cases he
    | cleared hnul hlong hfind _ hfiles =>
      obtain rfl := hroom.place_eq hfind
      rw [leaves, if_neg fun hshort => hlong (Host.checkSocketPath_eq_ok_iff.mpr ⟨hnul, hshort⟩)]
      exact hfiles
    | unnamed hpath => exact absurd hpath hroom.ne_empty
    | bound _ hfind _ hfiles =>
      obtain rfl := hroom.place_eq hfind
      rw [leaves, if_pos (Host.checkSocketPath_eq_ok_iff.mp (valid_of_bind hr)).2]
      exact hfiles

/-- The path leads to the same place after the bind. -/
theorem Room.find_bind (hroom : Room h path place x) :
    (bind h path).2.files.find false path = .ok (place, leaves h path) := by
  have hbecomes := hroom.bind_becomes
  have hat := Files.eq_of_find hroom.found
  have hwas : Entry.lasting? (h.files.entry? place) = none := by
    rw [← hat]
    exact Entry.lasting?_eq_none_iff.mpr hroom.free
  have hleft : Entry.lasting? (leaves h path) = none := by
    unfold leaves
    split <;> rfl
  rw [(hbecomes.sameTree hwas hleft).find hroom.found, hbecomes place, if_pos rfl]

/-- Without room no file changes. -/
theorem bind_files (hroom : ¬ ∃ place x, Room h path place x) :
    (bind h path).2.files = h.files := by
  have hbinding := binding h path
  cases hr : bind h path with
  | mk r h' =>
    rw [hr] at hbinding
    cases hbinding with
    | refused => rfl
    | cleared hnul _ hfind hx =>
      exact absurd ⟨_, _, hnul, hfind, Entry.lasting?_eq_none_iff.mp hx⟩ hroom
    | unnamed _ hfiles => exact hfiles
    | bound hnul hfind hx =>
      exact absurd ⟨_, _, hnul, hfind, Entry.lasting?_eq_none_iff.mp hx⟩ hroom

theorem host_bind_sockets {s : Socket} {id : SocketId} (hb : h.bind path s = .ok (id, h')) :
    h'.sockets = h.sockets.insert h.nextSocket s := by
  unfold Host.bind at hb
  cases hvalid : Host.checkSocketPath path with
  | error e =>
    rw [hvalid] at hb
    cases hb
  | ok u =>
    simp only [hvalid] at hb
    by_cases hempty : path.isEmpty = true
    · rw [hempty] at hb
      cases hb
      rfl
    · simp only [Bool.eq_false_iff.mpr hempty] at hb
      cases hfind : h.files.find false path with
      | error e =>
        rw [hfind] at hb
        cases hb
      | ok found =>
        obtain ⟨place, _ | e⟩ := found
        · rw [hfind] at hb
          cases hb
          rfl
        · rw [hfind] at hb
          cases hb

/-- A bind opens a socket at most; who listened on the socket whose file it removes goes on listening. -/
theorem bind_sockets {id : SocketId} (hid : id ≠ h.nextSocket) :
    (bind h path).2.sockets.get? id = h.sockets.get? id := by
  unfold bind
  split
  · rfl
  · rename_i g hclear
    obtain ⟨hsockets, hnext⟩ := clearPath_sockets hclear
    split
    · dsimp only
      rw [hsockets]
    · rename_i hbind
      dsimp only
      rw [host_bind_sockets hbind, Dictionary.get?_insert, hsockets, hnext]
      exact if_neg (Ne.symm hid)

/-- A host with one file, that of a socket that listens. -/
def bound : Host := (bind { files := ⟨∅⟩ } "s").2

/-- Clients find the listener, and the path has room for another one. -/
theorem bound_spec :
    bound.Open "s" 0 ∧ bound.nextSocket = 1 ∧ Room bound "s" ["s"] (some (.socket 0)) := by
  obtain ⟨h', hb, hnext, hat⟩ := ListenerPool.bind_s (h := { files := ⟨∅⟩ }) rfl
  have hopen := (open_of_bind (by decide) (fun _ _ => rfl) hb).1
  have hbound : bound = h' := by rw [bound, hb]
  rw [← hbound] at hopen hnext hat
  have hfind : bound.files.find false "s" = .ok (["s"], some (.socket 0)) := by
    rw [Files.find_s (by rw [hat]; rfl), hat]
  exact ⟨hopen, hnext, Host.no_nul Host.checkSocketPath_s, hfind, .inr ⟨0, rfl⟩⟩

/-- A bind at any path of any host succeeds if the path is short enough for an address and leads to
nothing, or to a socket file: of a socket that is closed, one that listens, or any other.  The place
where it leads then holds the file of the new socket.  If the path is too long, the bind fails and that
place is empty.  Nothing else changes: no other place, no place at all if there is no room, and no
socket but the new one. -/
theorem bind_replaces_socket_files (h : Host) (path : String) :
    ((∃ l, (bind h path).1 = .ok l) ↔
      path = "" ∨ path.utf8ByteSize ≤ Host.socketPathLimit ∧ ∃ place x, Room h path place x) ∧
    (∀ l, (bind h path).1 = .ok l → l = ⟨h.nextSocket, some path⟩) ∧
    (∀ place x, Room h path place x →
      h.files.Becomes place (leaves h path) (bind h path).2.files ∧
      (bind h path).2.files.find false path = .ok (place, leaves h path)) ∧
    ((¬ ∃ place x, Room h path place x) → (bind h path).2.files = h.files) ∧
    ∀ id, id ≠ h.nextSocket → (bind h path).2.sockets.get? id = h.sockets.get? id := by
  refine ⟨bind_isOk_iff, fun l hl => ?_, fun place x hroom => ?_, bind_files,
    fun id hid => bind_sockets hid⟩
  · exact (bind_ok (Prod.ext hl rfl : bind h path = (.ok l, (bind h path).2))).1
  · exact ⟨hroom.bind_becomes, hroom.find_bind⟩

/-- There is room where a listener listens: the bind succeeds, and the place changes. -/
theorem bind_replaces_socket_files_bound : Room bound "s" ["s"] (some (.socket 0)) ∧
    (∃ l, (bind bound "s").1 = .ok l) ∧
    bound.files.Becomes ["s"] (leaves bound "s") (bind bound "s").2.files := by
  obtain ⟨_, _, hroom⟩ := bound_spec
  obtain ⟨hok, _, hbecomes, _⟩ := bind_replaces_socket_files bound "s"
  exact ⟨hroom, hok.mpr (.inr ⟨by decide, _, _, hroom⟩), (hbecomes _ _ hroom).1⟩

/-- A listener listens, and its path leads clients to it.  A bind at the path succeeds: the path leads
to the new listener, while the old one listens on. -/
theorem bind_replaces_live_socket :
    bound.Open "s" 0 ∧ bound.files.find false "s" = .ok (["s"], some (.socket 0)) ∧
    (bind bound "s").1 = .ok ⟨1, some "s"⟩ ∧
    (bind bound "s").2.files.find false "s" = .ok (["s"], some (.socket 1)) ∧
    (bind bound "s").2.listening? 0 = some { kind := .packets, backlog } := by
  obtain ⟨hopen, hnext, hroom⟩ := bound_spec
  have hleaves : leaves bound "s" = some (.socket 1) := by
    rw [leaves, hnext]
    rfl
  have hlistens : (bind bound "s").2.sockets.get? 0 = bound.sockets.get? 0 :=
    bind_sockets (by rw [hnext]; decide)
  obtain ⟨h', hb⟩ := bind_of_valid Host.checkSocketPath_s hroom.found rfl
  refine ⟨hopen, hroom.found, ?_, ?_, ?_⟩
  · rw [hb, hnext]
  · rw [hroom.find_bind, hleaves]
  · rw [Host.listening?, hlistens]
    exact hopen.listening

end Listener

end FsidRegistry

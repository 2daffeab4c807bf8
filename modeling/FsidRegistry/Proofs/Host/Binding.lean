import FsidRegistry.Proofs.Host.Sockets

/-!
# Binding a path

A bind removes a socket file that is in its way and makes its own, and nothing else of the tree changes.

* `Files.SameTree`: two trees that differ in socket files only.  A path names the same place in both
  (`Files.SameTree.find`).
* `Files.Becomes`: the trees are the same but for one place.
* `Listener.Binding`, `Listener.binding`: all that a bind can come to.
* `Listener.bind_of_valid`: a bind that nothing is in the way of succeeds.
* `Listener.removeFile_becomes`: what the end of a listener removes.
* `Host.closeSocket_files`: closing a socket leaves the files alone.
-/

namespace FsidRegistry

/-! ## Trees that differ in socket files -/

/-- What a place holds besides socket files. -/
def Entry.lasting? : Option Entry → Option Entry
  | some (.socket _) => none
  | x => x

namespace Files

variable {fs fs' fs'' : Files} {place p : Place} {x : Option Entry} {path : String}

/-- Two trees that differ in socket files at most. -/
def SameTree (fs fs' : Files) : Prop :=
  ∀ p, Entry.lasting? (fs'.entry? p) = Entry.lasting? (fs.entry? p)

theorem SameTree.refl : SameTree fs fs := fun _ => rfl

theorem SameTree.symm (h : SameTree fs fs') : SameTree fs' fs := fun p => (h p).symm

theorem SameTree.trans (h : SameTree fs fs') (h' : SameTree fs' fs'') : SameTree fs fs'' :=
  fun p => (h' p).trans (h p)

/-- What is no socket file is the same in both trees. -/
theorem SameTree.entry? (h : SameTree fs fs') {e : Entry} (he : fs.entry? p = some e)
    (hs : ∀ id, e ≠ .socket id) : fs'.entry? p = some e := by
  have hp := h p
  rw [he] at hp
  have hlast : Entry.lasting? (some e) = some e := by
    cases e with
    | socket id => exact absurd rfl (hs id)
    | _ => rfl
  rw [hlast] at hp
  cases hx : fs'.entry? p with
  | none =>
    rw [hx] at hp
    cases hp
  | some e' =>
    rw [hx] at hp
    cases e' with
    | socket id => cases hp
    | _ => exact hp

/-- A walk ends at its last name, unless a directory is there. -/
theorem walk_last {fuel links : Nat} {at_ : Place} {name : String} {rest : List String}
    (hname : ¬ (name == "" || name == ".") = true) (hup : ¬ (name == "..") = true)
    (hlong : ¬ nameLimit < name.utf8ByteSize) (hrest : rest.isEmpty = true)
    (hdir : fs.entry? (at_ ++ [name]) ≠ some .directory) :
    fs.walk false (fuel + 1) links at_ (name :: rest) =
      .ok (at_ ++ [name], fs.entry? (at_ ++ [name])) := by
  rw [walk, if_neg hname, if_neg hup, if_neg hlong]
  dsimp only
  cases hx : fs.entry? (at_ ++ [name]) with
  | none => exact if_pos hrest
  | some e =>
    cases e with
    | directory => exact absurd hx hdir
    | link target =>
      dsimp only
      rw [hrest]
      rfl
    | _ => exact if_pos hrest

/-- A walk ends at the same place in both trees. -/
theorem SameTree.walk (h : SameTree fs fs') {fuel links : Nat} {at_ : Place} {names : List String}
    (hw : fs.walk false fuel links at_ names = .ok (place, x)) :
    fs'.walk false fuel links at_ names = .ok (place, fs'.entry? place) := by
  -- On the walk: its last name may lead to another socket file, all others lead to what they did.
  have hdir : ∀ {p}, fs.entry? p ≠ some .directory → fs'.entry? p ≠ some .directory :=
    fun hne hd => hne (h.symm.entry? hd (by rintro id ⟨⟩))
  fun_induction Files.walk fs false fuel links at_ names
  case case2 fuel links at_ hfuel =>
    obtain ⟨rfl, _⟩ := Prod.mk.inj (Except.ok.inj hw)
    cases fuel with
    | zero => exact absurd rfl hfuel
    | succ fuel => rw [Files.walk]; exact hfuel
  case case3 hname ih => rw [Files.walk, if_pos hname, ih hw]
  case case4 hname hup ih => rw [Files.walk, if_neg hname, if_pos hup, ih hw]
  case case6 at_ name rest hname hup hlong place' hentry hrest =>
    obtain ⟨rfl, _⟩ := Prod.mk.inj (Except.ok.inj hw)
    refine walk_last hname hup hlong hrest (hdir fun hd => ?_)
    rw [show fs.entry? (at_ ++ [name]) = none from hentry] at hd
    cases hd
  case case8 at_ name rest hname hup hlong place' hentry ih =>
    have hdir' : fs'.entry? (at_ ++ [name]) = some .directory :=
      h.entry? hentry (by rintro id ⟨⟩)
    rw [Files.walk, if_neg hname, if_neg hup, if_neg hlong]
    dsimp only
    rw [hdir']
    exact ih hw
  case case9 at_ name rest hname hup hlong place' target hentry hrest =>
    obtain ⟨rfl, _⟩ := Prod.mk.inj (Except.ok.inj hw)
    refine walk_last hname hup hlong (Bool.and_eq_true_iff.mp hrest).1 (hdir fun hd => ?_)
    rw [show fs.entry? (at_ ++ [name]) = some (.link target) from hentry] at hd
    cases hd
  case case11 at_ name rest hname hup hlong place' target hentry hrest hlinks start ih =>
    have hlink : fs'.entry? (at_ ++ [name]) = some (.link target) :=
      h.entry? hentry (by rintro id ⟨⟩)
    rw [Files.walk, if_neg hname, if_neg hup, if_neg hlong]
    dsimp only
    rw [hlink]
    dsimp only
    rw [if_neg hrest, if_neg hlinks]
    exact ih hw
  case case12 at_ name rest hname hup hlong place' e hnotDir hnotLink hentry hrest =>
    obtain ⟨rfl, _⟩ := Prod.mk.inj (Except.ok.inj hw)
    refine walk_last hname hup hlong hrest (hdir fun hd => ?_)
    have hentry' : fs.entry? (at_ ++ [name]) = some e := hentry
    exact hnotDir (Option.some.inj (hentry'.symm.trans hd))
  all_goals cases hw

/-- A path names the same place in both trees. -/
theorem SameTree.find (h : SameTree fs fs') (hf : fs.find false path = .ok (place, x)) :
    fs'.find false path = .ok (place, fs'.entry? place) := by
  unfold Files.find at hf ⊢
  split at hf
  · cases hf
  · split at hf
    · cases hf
    · rename_i hempty hlong
      rw [if_neg hempty, if_neg hlong]
      exact h.walk hf

theorem eq_of_find {follow : Bool} (hf : fs.find follow path = .ok (place, x)) :
    x = fs.entry? place := by
  unfold Files.find at hf
  split at hf
  · cases hf
  · split at hf
    · cases hf
    · exact eq_of_walk hf

/-- The trees are the same, but for what `place` holds in the second one. -/
def Becomes (fs : Files) (place : Place) (x : Option Entry) (fs' : Files) : Prop :=
  ∀ q, fs'.entry? q = if place = q then x else fs.entry? q

theorem becomes_remove (hp : place ≠ []) : fs.Becomes place none (fs.remove place) := by
  intro q
  cases q with
  | nil =>
    rw [if_neg hp]
    rfl
  | cons name q => exact Dictionary.get?_erase fs.entries place (name :: q)

theorem becomes_put {e : Entry} (hp : place ≠ []) :
    fs.Becomes place (some e) (fs.put place e) := fun q => entry?_put hp q

theorem becomes_self : fs.Becomes place (fs.entry? place) fs := by
  intro q
  by_cases hq : place = q
  · rw [if_pos hq, hq]
  · rw [if_neg hq]

theorem Becomes.trans {y : Option Entry} (h : fs.Becomes place x fs')
    (h' : fs'.Becomes place y fs'') : fs.Becomes place y fs'' := by
  intro q
  rw [h' q]
  by_cases hq : place = q
  · rw [if_pos hq, if_pos hq]
  · rw [if_neg hq, if_neg hq, h q, if_neg hq]

theorem Becomes.sameTree (h : fs.Becomes place x fs') (hwas : Entry.lasting? (fs.entry? place) = none)
    (hx : Entry.lasting? x = none) : SameTree fs fs' := by
  intro q
  rw [h q]
  by_cases hq : place = q
  · rw [if_pos hq, hx, ← hq, hwas]
  · rw [if_neg hq]

/-- Only the root, a directory, has no name. -/
theorem ne_root (h : Entry.lasting? (fs.entry? place) = none) : place ≠ [] := by
  rintro rfl
  cases h

theorem find_s (h : Entry.lasting? (fs.entry? ["s"]) = none) :
    fs.find false "s" = .ok (["s"], fs.entry? ["s"]) := by
  unfold find
  rw [if_neg (by decide), if_neg (by decide), names_s]
  refine walk_last (by decide) (by decide) (by decide) rfl fun hdir => ?_
  rw [List.nil_append] at hdir
  rw [hdir] at h
  cases h

/-- Removing a file removes it from the place that its path names. -/
theorem unlink_eq {id : Nat} (hf : fs.find false path = .ok (place, some (.socket id))) :
    fs.unlink path = .ok (fs.remove place) := by
  rw [unlink, hf]

end Files

/-! ## What binding and removing come to -/

namespace Listener

variable {h h' : Host} {path : String} {place : Place} {x : Option Entry}

/-- A path is cleared of a socket file, or it leads nowhere. -/
theorem clearPath_cases (hc : clearPath h path = .ok h') :
    path.contains '\x00' = false ∧ (h' = h ∧ h.files.find false path = .error .noEntry ∨
      ∃ place x, h.files.find false path = .ok (place, x) ∧ Entry.lasting? x = none ∧
        h.files.Becomes place none h'.files ∧ h'.nextSocket = h.nextSocket) := by
  unfold clearPath at hc
  split at hc
  · cases hc
  · rename_i hnul
    refine ⟨Bool.eq_false_iff.mpr hnul, ?_⟩
    split at hc
    · rename_i e hfind
      split at hc
      · rename_i he
        cases hc
        exact .inl ⟨rfl, he ▸ hfind⟩
      · cases hc
    · rename_i place hfind
      cases hc
      refine .inr ⟨place, none, hfind, rfl, ?_, rfl⟩
      rw [Files.eq_of_find hfind]
      exact Files.becomes_self
    · rename_i place id hfind
      rw [Files.unlink_eq hfind] at hc
      cases hc
      have hwas : Entry.lasting? (h.files.entry? place) = none := by
        rw [← Files.eq_of_find hfind]
        rfl
      exact .inr ⟨place, _, hfind, rfl, Files.becomes_remove (Files.ne_root hwas), rfl⟩
    · cases hc

/-- Nothing is in the way of clearing a socket file away. -/
theorem exists_clearPath (hnul : path.contains '\x00' = false)
    (hf : h.files.find false path = .ok (place, x)) (hx : Entry.lasting? x = none) :
    ∃ h', clearPath h path = .ok h' := by
  unfold clearPath
  rw [if_neg (by simp [hnul]), hf]
  cases x with
  | none => exact ⟨h, rfl⟩
  | some e =>
    cases e with
    | socket id =>
      dsimp only
      rw [Files.unlink_eq hf]
      exact ⟨_, rfl⟩
    | _ => cases hx

/-- What a bind answers, and the host it leaves. -/
inductive Binding (h : Host) (path : String) : Except Error Listener → Host → Prop
  /-- Nothing is done where the path leads nowhere, or to what is no socket file. -/
  | refused {e : Error} (hkept : path.contains '\x00' = false → ∀ {place x},
      h.files.find false path = .ok (place, x) → ∃ e, Entry.lasting? x = some e) :
    Binding h path (.error e) h
  /-- The path was cleared, but is too long for the address of a socket. -/
  | cleared {e : Error} {h' : Host} {place : Place} {x : Option Entry}
      (hnul : path.contains '\x00' = false) (hlong : Host.checkSocketPath path ≠ .ok ())
      (hfind : h.files.find false path = .ok (place, x)) (hx : Entry.lasting? x = none)
      (hfiles : h.files.Becomes place none h'.files) (hnext : h'.nextSocket = h.nextSocket) :
    Binding h path (.error e) h'
  /-- The empty path makes no socket file. -/
  | unnamed {h' : Host} (hpath : path = "") (hfiles : h'.files = h.files)
      (hnext : h'.nextSocket = h.nextSocket + 1) :
    Binding h path (.ok ⟨h.nextSocket, some path⟩) h'
  | bound {h' : Host} {place : Place} {x : Option Entry} (hnul : path.contains '\x00' = false)
      (hfind : h.files.find false path = .ok (place, x)) (hx : Entry.lasting? x = none)
      (hfiles : h.files.Becomes place (some (.socket h.nextSocket)) h'.files)
      (hnext : h'.nextSocket = h.nextSocket + 1) :
    Binding h path (.ok ⟨h.nextSocket, some path⟩) h'

theorem find_empty {fs : Files} : fs.find false "" = .error .noEntry := rfl

/-- A path that leads to nothing is bound, unless it is too long. -/
theorem host_bind_cases {s : Socket} {r : Except Errno (SocketId × Host)} (hr : h.bind path s = r)
    (hne : path.isEmpty = false) (hf : h.files.find false path = .ok (place, none)) :
    (∃ e, r = .error e ∧ Host.checkSocketPath path = .error e) ∨
      ∃ h', r = .ok (h.nextSocket, h') ∧ h'.nextSocket = h.nextSocket + 1 ∧
        h'.files = h.files.put place (.socket h.nextSocket) := by
  unfold Host.bind at hr
  cases hvalid : Host.checkSocketPath path with
  | error e =>
    rw [hvalid] at hr
    exact .inl ⟨e, hr.symm, rfl⟩
  | ok u =>
    rw [hvalid, hne, hf] at hr
    exact .inr ⟨_, hr.symm, rfl, rfl⟩

/-- All that a bind can come to. -/
theorem binding (h : Host) (path : String) : Binding h path (bind h path).1 (bind h path).2 := by
  unfold bind
  cases hc : clearPath h path with
  | error e =>
    refine .refused fun hnul place x hfind => ?_
    cases hlast : Entry.lasting? x with
    | some e' => exact ⟨e', rfl⟩
    | none =>
      obtain ⟨h', hcleared⟩ := exists_clearPath hnul hfind hlast
      rw [hc] at hcleared
      cases hcleared
  | ok g =>
    obtain ⟨hnul, ⟨rfl, hfind⟩ | ⟨place, x, hfind, hx, hfiles, hnext⟩⟩ := clearPath_cases hc
    · -- The path leads nowhere: only the empty path is bound.
      dsimp only
      by_cases hne : path.isEmpty = true
      · obtain rfl := String.isEmpty_iff.mp hne
        have hvalid : Host.checkSocketPath "" = .ok () := by
          unfold Host.checkSocketPath
          rw [hnul]
          rfl
        unfold Host.bind
        rw [hvalid]
        exact .unnamed rfl rfl rfl
      · have herror : ∃ e, g.bind path (.listening { kind := .packets, backlog }) = .error e := by
          unfold Host.bind
          cases hvalid : Host.checkSocketPath path with
          | error e => exact ⟨e, rfl⟩
          | ok u =>
            rw [if_neg hne, hfind]
            exact ⟨_, rfl⟩
        obtain ⟨e, herror⟩ := herror
        rw [herror]
        refine .refused fun _ place x hfind' => ?_
        rw [hfind] at hfind'
        cases hfind'
    · dsimp only
      have hwas : Entry.lasting? (h.files.entry? place) = none := by
        rw [← Files.eq_of_find hfind]
        exact hx
      have hgone : g.files.entry? place = none := by rw [hfiles place, if_pos rfl]
      have hcleared : g.files.find false path = .ok (place, none) := by
        rw [(hfiles.sameTree hwas rfl).find hfind, hgone]
      have hne : path.isEmpty = false := by
        rw [Bool.eq_false_iff]
        intro hempty
        obtain rfl := String.isEmpty_iff.mp hempty
        rw [find_empty] at hfind
        cases hfind
      obtain ⟨e, he, hlong⟩ | ⟨h', he, hnext', hfiles'⟩ := host_bind_cases rfl hne hcleared
      · rw [he]
        refine .cleared hnul (fun hvalid => ?_) hfind hx hfiles hnext
        rw [hlong] at hvalid
        cases hvalid
      · rw [he, hnext]
        refine .bound hnul hfind hx ?_ (by rw [hnext', hnext])
        refine hfiles.trans ?_
        rw [hfiles', hnext]
        exact Files.becomes_put (Files.ne_root (by rw [hgone]; rfl))

/-- A bind that succeeds makes the next socket, and was made where nothing but a socket file was. -/
theorem bind_ok {h h' : Host} {path : String} {l : Listener} (hb : bind h path = (.ok l, h')) :
    l = ⟨h.nextSocket, some path⟩ ∧ h'.nextSocket = h.nextSocket + 1 ∧
      ∀ {place x}, h.files.find false path = .ok (place, x) → Entry.lasting? x = none := by
  have hbinding := binding h path
  rw [hb] at hbinding
  generalize hr : (Except.ok l : Except Error Listener) = r at hbinding
  cases hbinding with
  | refused => cases hr
  | cleared => cases hr
  | unnamed hpath _ hnext =>
    refine ⟨Except.ok.inj hr, hnext, fun hfind => ?_⟩
    rw [hpath, find_empty] at hfind
    cases hfind
  | bound _ hfind hx _ hnext =>
    refine ⟨Except.ok.inj hr, hnext, fun hfind' => ?_⟩
    obtain ⟨_, rfl⟩ := Prod.mk.inj (Except.ok.inj (hfind'.symm.trans hfind))
    exact hx

/-- A bind that succeeds makes its path lead to the file of the new socket. -/
theorem find_of_bind {h h' : Host} {path : String} {l : Listener} (hpath : path ≠ "")
    (hb : bind h path = (.ok l, h')) :
    ∃ place, h'.files.find false path = .ok (place, some (.socket l.socket)) := by
  have hbinding := binding h path
  rw [hb] at hbinding
  generalize hr : (Except.ok l : Except Error Listener) = r at hbinding
  cases hbinding with
  | refused => cases hr
  | cleared => cases hr
  | unnamed hempty => exact absurd hempty hpath
  | @bound _ place x _ hfind hx hfiles _ =>
    obtain rfl := Except.ok.inj hr
    have hwas : Entry.lasting? (h.files.entry? place) = none := by
      rw [← Files.eq_of_find hfind]
      exact hx
    refine ⟨place, ?_⟩
    rw [(hfiles.sameTree hwas rfl).find hfind, hfiles place, if_pos rfl]

/-- A path is bound if it can be an address and leads to nothing, or to a socket file. -/
theorem bind_of_valid (hvalid : Host.checkSocketPath path = .ok ())
    (hf : h.files.find false path = .ok (place, x)) (hx : Entry.lasting? x = none) :
    ∃ h', bind h path = (.ok ⟨h.nextSocket, some path⟩, h') := by
  have hb := binding h path
  cases hr : bind h path with
  | mk r h' =>
    rw [hr] at hb
    cases hb with
    | refused hkept =>
      obtain ⟨e, he⟩ := hkept (Host.no_nul hvalid) hf
      rw [hx] at he
      cases he
    | cleared _ hlong => exact absurd hvalid hlong
    | unnamed => exact ⟨h', rfl⟩
    | bound => exact ⟨h', rfl⟩

/-- Removing the file of a path removes what is there, if that is a socket file. -/
theorem removeFile_becomes (hf : h.files.find false path = .ok (place, x))
    (hx : Entry.lasting? x = none) : h.files.Becomes place none (removeFile h path).2.files := by
  have hat := Files.eq_of_find hf
  unfold removeFile
  cases x with
  | none =>
    rw [Files.unlink, hf]
    dsimp only
    rw [if_pos rfl]
    rw [hat]
    exact Files.becomes_self
  | some e =>
    cases e with
    | socket id =>
      rw [Files.unlink_eq hf]
      exact Files.becomes_remove (Files.ne_root (by rw [← hat]; rfl))
    | _ => cases hx

/-- Nothing is removed where the path leads nowhere. -/
theorem removeFile_eq {e : Errno} (hf : h.files.find false path = .error e) :
    (removeFile h path).2 = h := by
  unfold removeFile
  rw [Files.unlink, hf]
  dsimp only
  split <;> rfl

/-- A listener that gives up its file remembers no path, whatever came of the removal. -/
theorem release_path (l : Listener) (removal : Removal) : (l.release removal).2.path = none := by
  unfold release
  split
  · rfl
  · assumption

theorem unlink_path {l : Listener} : (l.unlink h).2.1.path = none := release_path l _

theorem removeFile_nextSocket : (removeFile h path).2.nextSocket = h.nextSocket := by
  unfold removeFile
  split
  · rfl
  · split <;> rfl

end Listener

/-! ## Closing -/

namespace Host

variable {h : Host} {id : SocketId}

theorem modifyEndpoint_files {f : Endpoint → Endpoint} :
    (h.modifyEndpoint id f).files = h.files ∧ (h.modifyEndpoint id f).nextSocket = h.nextSocket := by
  unfold modifyEndpoint
  split <;> exact ⟨rfl, rfl⟩

theorem closeEndpoint_files {lost : Bool} :
    (h.closeEndpoint id lost).files = h.files ∧
      (h.closeEndpoint id lost).nextSocket = h.nextSocket := by
  unfold closeEndpoint
  split
  · exact ⟨rfl, rfl⟩
  · exact modifyEndpoint_files

/-- A socket is closed whether or not its file is there. -/
theorem closeSocket_files :
    (h.closeSocket id).files = h.files ∧ (h.closeSocket id).nextSocket = h.nextSocket := by
  have hqueue : ∀ (queue : List SocketId) (h : Host),
      (queue.foldl (fun h c => h.closeEndpoint c true) h).files = h.files ∧
        (queue.foldl (fun h c => h.closeEndpoint c true) h).nextSocket = h.nextSocket := by
    intro queue
    induction queue with
    | nil => exact fun h => ⟨rfl, rfl⟩
    | cons c queue ih =>
      intro h
      have hc : (h.closeEndpoint c true).files = h.files ∧
          (h.closeEndpoint c true).nextSocket = h.nextSocket := closeEndpoint_files
      exact ⟨(ih _).1.trans hc.1, (ih _).2.trans hc.2⟩
  unfold closeSocket
  split
  · exact closeEndpoint_files
  · exact hqueue _ h
  · exact ⟨rfl, rfl⟩

theorem shutdownListening_files :
    (h.shutdownListening id).files = h.files ∧
      (h.shutdownListening id).nextSocket = h.nextSocket := by
  unfold shutdownListening
  split <;> exact ⟨rfl, rfl⟩

end Host

end FsidRegistry

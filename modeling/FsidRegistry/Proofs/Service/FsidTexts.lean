import FsidRegistry.Client
import FsidRegistry.Proofs.Number.Decimal
import FsidRegistry.Proofs.Number.Numeral
import FsidRegistry.Proofs.Service.Turn

/-!
# Fsids in texts

An fsid goes over a connection as a text: the server writes the one that it has found, and a client reads
it; a client writes the one whose path it asks for, and the server reads it.

* `Fsid.IsNamedBy`: the texts with which a client can ask for the path of an fsid.
* `Command.start_getPath_eq_ok_iff`: a call of the cache comes of these texts and of no others.
* `Service.connectionStep?_of_refused`: what a refused argument changes in a service, which is neither its
  store nor its cache.
* `Service.fsid_texts_are_exact`: all of this.
-/

namespace FsidRegistry

/-- A text asks for the path of an fsid: it denotes a number from 1 to the largest fsid. -/
def Fsid.IsNamedBy (fsid : Fsid) (text : String) : Prop :=
  ∃ n, Number.Denotes text n ∧ 1 ≤ n ∧ n ≤ 2147483647 ∧ fsid.val = n

theorem Fsid.readIssued?_eq_some_iff {fsid : Fsid} {text : String} :
    readIssued? text = some fsid ↔ fsid.IsNamedBy text := by
  rw [Ledger.readIssued?_eq_some_iff]
  simp only [← Ledger.readUnsigned?_eq_number?, Number.readUnsigned?_eq_some_iff]
  constructor
  · rintro ⟨n, hn, hpos, hv⟩
    have hle := fsid.upper
    exact ⟨n, hn, hpos, by omega, hv⟩
  · rintro ⟨n, hn, hpos, -, hv⟩
    exact ⟨n, hn, hpos, hv⟩

/-- No other fsid is read from the text of one that is not positive. -/
theorem Fsid.readIssued?_text_eq_none {fsid : Fsid} (h : fsid.val < 1) :
    readIssued? fsid.text = none := by
  rw [readIssued?, read?_text, Option.filter_some, if_neg]
  rw [decide_eq_true_eq]
  omega

namespace Command

variable {argument : String}

theorem start_getPath_of_some {fsid : Fsid} (h : Fsid.readIssued? argument = some fsid) :
    getPath.start argument = .ok (.pathOf fsid) := by
  rw [start, h]

theorem start_getPath_of_none (h : Fsid.readIssued? argument = none) :
    getPath.start argument = .error (.error .invalidArgument) := by
  rw [start, h]

theorem start_getPath_eq_ok_iff {request : CacheRequest} :
    getPath.start argument = .ok request ↔
      ∃ fsid : Fsid, fsid.IsNamedBy argument ∧ request = .pathOf fsid := by
  simp only [← Fsid.readIssued?_eq_some_iff]
  cases hread : Fsid.readIssued? argument with
  | none =>
    rw [start_getPath_of_none hread]
    constructor
    · intro h
      cases h
    · rintro ⟨fsid, h, -⟩
      cases h
  | some fsid =>
    rw [start_getPath_of_some hread]
    constructor
    · intro h
      cases h
      exact ⟨fsid, rfl, rfl⟩
    · rintro ⟨fsid', h, rfl⟩
      rw [Option.some.inj h]

theorem start_getPath_of_not_named (h : ∀ fsid : Fsid, ¬ fsid.IsNamedBy argument) :
    getPath.start argument = .error (.error .invalidArgument) := by
  refine start_getPath_of_none (Option.eq_none_iff_forall_ne_some.mpr fun fsid hread => ?_)
  exact h fsid (Fsid.readIssued?_eq_some_iff.mp hread)

end Command

namespace Service

variable {s : Service} {id : ConnectionId} {c : Connection Handler} {command : Command}
  {argument : String}

/-- A command that refuses its argument is answered in one step, by which its connection and the records
change. -/
theorem connectionStep?_of_refused {e : Error} (hc : s.server.connections.get? id = some c)
    (hphase : c.phase = .handling (.command command) argument) (hw : s.workers.get? id = none)
    (hrecorded : command.isRecorded = true) (hstart : command.start argument = .error (.error e)) :
    s.connectionStep? id c = some { s with
      server := withConnection s.server id
        { c with phase := .writing (Text.encode (Response.err e.message).text) }
      finished := ⟨command, .of (.error e), 0⟩ :: s.finished } := by
  have hstep : c.step? s.server.handlers (.answers (.error e)) = some
      { c with phase := .writing (Text.encode (Response.err e.message).text) } :=
    (Connection.Step.answers _ _ _ hphase).step?
  unfold connectionStep?
  rw [hphase]
  show s.handlerStep? id c argument (.command command) = _
  rw [handlerStep?, hw]
  dsimp only
  rw [hstart]
  show s.finish? id command 0 (.error e) = _
  unfold finish? answer?
  rw [hrecorded, if_pos rfl, Dictionary.erase_eq_self hw]
  exact advance?_connection
    (s := { s with finished := ⟨command, .of (.error e), 0⟩ :: s.finished }) hc hstep

/-- **Fsids are read from their texts, and no path is asked for by any other text.**  A client reads the
fsid that the server writes.  The server reads a text of digits, with a plus sign before them or without,
that denotes a number from 1 to the largest fsid, so the text of an fsid exactly if it is positive.  With
any other text, a request is answered at once: one connection and the records change, and neither the
store nor the cache does, nor is there a call that could make an attempt. -/
theorem fsid_texts_are_exact :
    (∀ (fsid : Fsid) (path : String),
      (Command.getFsid.finish (.ok (some (fsid, path)))).bind ClientCall.readFsid = .ok fsid ∧
      (Command.getOrCreateFsid.finish (.ok (some (fsid, path)))).bind ClientCall.readFsid =
        .ok fsid) ∧
    (∀ (text : String) (request : CacheRequest), Command.getPath.start text = .ok request ↔
      ∃ fsid : Fsid, fsid.IsNamedBy text ∧ request = .pathOf fsid) ∧
    (∀ fsid : Fsid, Command.getPath.start fsid.text =
      if 1 ≤ fsid.val then .ok (.pathOf fsid) else .error (.error .invalidArgument)) ∧
    ∀ text : String, (∀ fsid : Fsid, ¬ fsid.IsNamedBy text) →
      Command.getPath.start text = .error (.error .invalidArgument) ∧
      ∀ (s : Service) (id : ConnectionId) (c : Connection Handler),
        s.server.connections.get? id = some c →
        c.phase = .handling (.command .getPath) text → s.workers.get? id = none →
        s.connectionStep? id c = some { s with
          server := withConnection s.server id
            { c with phase := .writing (Text.encode "- invalid argument") }
          finished := ⟨.getPath, .invalid, 0⟩ :: s.finished } := by
  refine ⟨fun fsid path => ?_, fun text request => Command.start_getPath_eq_ok_iff, fun fsid => ?_,
    fun text h => ?_⟩
  · have hread : ClientCall.readFsid fsid.text = .ok fsid := by
      rw [ClientCall.readFsid, Fsid.read?_text]
    exact ⟨hread, hread⟩
  · by_cases hpos : 1 ≤ fsid.val
    · rw [if_pos hpos]
      exact Command.start_getPath_of_some (Fsid.readIssued?_text hpos)
    · rw [if_neg hpos]
      exact Command.start_getPath_of_none (Fsid.readIssued?_text_eq_none (by omega))
  · have hstart := Command.start_getPath_of_not_named h
    exact ⟨hstart, fun s id c hc hphase hw => connectionStep?_of_refused hc hphase hw rfl hstart⟩

/-- A text with leading zeros asks for the path of an fsid, and one beyond the largest fsid is refused. -/
theorem fsid_texts_are_exact_beyond_largest :
    Command.getPath.start "+0000000000007" = .ok (.pathOf ⟨7, by decide, by decide⟩) ∧
      ∃ s t : Service, ∃ c, s.server.connections.get? 1 = some c ∧
        c.phase = .handling (.command .getPath) "2147483648" ∧ s.connectionStep? 1 c = some t ∧
        t.backend = s.backend ∧ t.workers = s.workers ∧ t.finished = [⟨.getPath, .invalid, 0⟩] := by
  have hseven : Fsid.IsNamedBy ⟨7, by decide, by decide⟩ "+0000000000007" :=
    Fsid.readIssued?_eq_some_iff.mp (by decide +kernel)
  have hbeyond : ∀ fsid : Fsid, ¬ fsid.IsNamedBy "2147483648" := by
    intro fsid h
    have hnone : Fsid.readIssued? "2147483648" = none := by decide +kernel
    rw [Fsid.readIssued?_eq_some_iff.mpr h] at hnone
    cases hnone
  let c : Connection Handler := { stream := 1, phase := .handling (.command .getPath) "2147483648" }
  let s : Service :=
    { server := { listener := ⟨0, none⟩, connections := (∅ : Dictionary _ _).insert 1 c }
      host := { files := ⟨∅⟩ }
      backend := ⟨.empty true, ⟨.memory .empty, [], []⟩⟩
      now := 0 }
  refine ⟨(fsid_texts_are_exact.2.1 _ _).mpr ⟨_, hseven, rfl⟩, s, _, c, rfl, rfl,
    (fsid_texts_are_exact.2.2.2 _ hbeyond).2 s 1 c rfl rfl rfl, rfl, rfl, rfl⟩

end Service

end FsidRegistry

import FsidRegistry.Proofs.Host.Sockets
import FsidRegistry.Proofs.Server.Treatment

/-!
# The dialogue with a client

A connection that nobody stops is run on its host: it receives packets from its socket, has its
handlers called, and sends its responses, as long as no write fails.

* `Dialogue.Next`: what can happen next.
* `Dialogue.Stands`: what has come of the packets by the place where the connection's task stands,
  and `Dialogue.Next.stands`, that every step keeps it.
* `Dialogue.answers_every_packet`: every packet is answered once and in order, each one by itself.
-/

namespace FsidRegistry

/-- A connection on its host, with the calls of its handlers that have returned, oldest first. -/
structure Dialogue (η : Type) where
  connection : Connection η
  host : Host
  calls : List (HandlerCall η) := []

/-- Whether the loop of a connection is at work. -/
def ConnectionPhase.isServing {η : Type} : ConnectionPhase η → Bool
  | .testing | .polling | .receiving | .handling _ _ | .writing _ => true
  | _ => false

namespace Dialogue

variable {η : Type} {table : HandlerTable η} {d d' : Dialogue η} {a : SocketId} {k : Nat}
  {packets done rest : List ByteArray} {ts : List (Treatment η)}

/-- The dialogue whose connection is about to test its shutdown flag for the first time. -/
def start (host : Host) (stream : SocketId) : Dialogue η :=
  { connection := { stream, phase := .testing }, host }

/-- What can happen next.  A handler always returns, and no write fails. -/
inductive Next (table : HandlerTable η) (d : Dialogue η) : Dialogue η → Prop
  | tests (c : Connection η) (h : d.connection.step? table .tests = some c) :
    Next table d { d with connection := c }
  | polls (c : Connection η) (h : d.connection.step? table .polls = some c) :
    Next table d { d with connection := c }
  | receives (packet : ByteArray) (host : Host) (c : Connection η)
      (hr : d.host.receive d.connection.stream (packetLimit + 1) = (.packet packet, host))
      (h : d.connection.step? table (.receives packet) = some c) :
    Next table d { d with connection := c, host }
  | receiveWaits (host : Host) (c : Connection η)
      (hr : d.host.receive d.connection.stream (packetLimit + 1) = (.wouldBlock, host))
      (h : d.connection.step? table .receiveWaits = some c) :
    Next table d { d with connection := c, host }
  | receiveFails (errno : Errno) (host : Host) (c : Connection η)
      (hr : d.host.receive d.connection.stream (packetLimit + 1) = (.failed errno, host))
      (h : d.connection.step? table .receiveFails = some c) :
    Next table d { d with connection := c, host }
  | answers (handler : η) (argument : String) (result : Except Error String) (c : Connection η)
      (hp : d.connection.phase = .handling handler argument)
      (h : d.connection.step? table (.answers result) = some c) :
    Next table d { d with connection := c, calls := d.calls ++ [⟨handler, argument, result⟩] }
  | writes (response : ByteArray) (bytes : Nat) (host : Host) (c : Connection η)
      (hp : d.connection.phase = .writing response)
      (hs : d.host.send d.connection.stream response = (.ok bytes, host))
      (h : d.connection.step? table (.writes bytes) = some c) :
    Next table d { d with connection := c, host }
  | flags (c : Connection η) (h : d.connection.step? table .flags = some c) :
    Next table d { d with connection := c }
  | shuts (c : Connection η) (h : d.connection.step? table .shuts = some c) :
    Next table d { d with
      connection := c, host := d.host.shutdownEndpoint d.connection.stream true false }
  | cancels (c : Connection η) (h : d.connection.step? table .cancels = some c) :
    Next table d { d with connection := c }

/-- The dialogues after so many steps. -/
inductive After (table : HandlerTable η) (d : Dialogue η) : Nat → Dialogue η → Prop
  | start : After table d 0 d
  | next (k : Nat) (d' d'' : Dialogue η) (h : After table d k d') (hn : Next table d' d'') :
    After table d (k + 1) d''

/-! ## What has come of the packets -/

/-- The first packets are answered and the rest wait to be received; nobody has stopped the
connection between client `a` and the server. -/
structure Upto (table : HandlerTable η) (a : SocketId) (d : Dialogue η) (done rest : List ByteArray)
    (ts : List (Treatment η)) : Prop where
  stream : d.connection.stream = a + 1
  inShutdown : d.connection.inShutdown = false
  cancelled : d.connection.cancelled = false
  treated : List.Forall₂ (Request.Treats table) done ts
  linked : d.host.Linked a rest (ts.map fun t => Text.encode t.response)

/-- No packet is at work.  While some wait, no step was made in vain. -/
def Idle (table : HandlerTable η) (a : SocketId) (packets : List ByteArray) (place k : Nat)
    (d : Dialogue η) : Prop :=
  ∃ done rest ts, packets = done ++ rest ∧ Upto table a d done rest ts ∧
    d.calls = ts.filterMap (·.call?) ∧ (rest ≠ [] → k ≤ 5 * done.length + place)

/-- A handler is at work on a packet. -/
def Handling (table : HandlerTable η) (a : SocketId) (packets : List ByteArray) (k : Nat)
    (d : Dialogue η) (handler : η) (argument : String) : Prop :=
  ∃ done packet rest ts, packets = done ++ packet :: rest ∧ Upto table a d done rest ts ∧
    Request.Asks table packet handler argument ∧ d.calls = ts.filterMap (·.call?) ∧
    k ≤ 5 * done.length + 3

/-- A packet is treated but for its response. -/
def Writing (table : HandlerTable η) (a : SocketId) (packets : List ByteArray) (k : Nat)
    (d : Dialogue η) (response : ByteArray) : Prop :=
  ∃ done packet rest ts t, packets = done ++ packet :: rest ∧ Upto table a d done rest ts ∧
    Request.Treats table packet t ∧ response = Text.encode t.response ∧
    d.calls = (ts ++ [t]).filterMap (·.call?) ∧ k ≤ 5 * done.length + 4

/-- What has come of the packets after `k` steps, by the phase of the connection. -/
def Stands (table : HandlerTable η) (a : SocketId) (packets : List ByteArray) (k : Nat)
    (d : Dialogue η) : Prop :=
  match d.connection.phase with
  | .testing => Idle table a packets 0 k d
  | .polling => Idle table a packets 1 k d
  | .receiving => Idle table a packets 2 k d
  | .handling handler argument => Handling table a packets k d handler argument
  | .writing response => Writing table a packets k d response
  | _ => False

theorem stands_start {host : Host} (hl : host.Linked a packets []) :
    Stands table a packets 0 (start host (a + 1)) :=
  ⟨[], packets, [], rfl, ⟨rfl, rfl, rfl, .nil, hl⟩, rfl, fun _ => Nat.zero_le _⟩

/-- The next packet is received. -/
theorem stands_receives {packet : ByteArray} {host : Host} (hp : d.connection.phase = .receiving)
    (hs : Stands table a packets k d) (hne : ∀ p ∈ packets, p.size ≠ 0)
    (hr : d.host.receive d.connection.stream (packetLimit + 1) = (.packet packet, host)) :
    Stands table a packets (k + 1) { d with
      connection := { d.connection with phase := Connection.phaseAfter table packet }, host } := by
  rw [Stands, hp] at hs
  obtain ⟨done, rest, ts, hpackets, hu, hcalls, hk⟩ := hs
  rw [hu.stream] at hr
  cases rest with
  | nil => rw [Host.receive, hu.linked.server] at hr; cases hr
  | cons p rest =>
    rw [hu.linked.receive] at hr
    cases hr
    have hu' : Upto table a { d with
        connection := { d.connection with phase := Connection.phaseAfter table p }
        host := d.host.setSocket (a + 1) (.endpoint { peer := a, inbox := rest }) } done rest ts :=
      { hu with linked := hu.linked.setSocket_server rest }
    have hk := hk (List.cons_ne_nil p rest)
    have hsize : ¬ (p.size == 0) = true := fun hz =>
      hne p (hpackets ▸ List.mem_append_right done List.mem_cons_self) (beq_iff_eq.mp hz)
    -- What is cut off the packet decides nothing, so the whole packet may be looked at.
    rw [Connection.phaseAfter_extract]
    rw [Connection.phaseAfter, if_neg hsize] at hu' ⊢
    rcases Request.dispatch_cases table p with ⟨response, hd, ht⟩ | ⟨handler, argument, hd, hasks⟩
    · rw [hd] at hu' ⊢
      have hk' : k + 1 ≤ 5 * done.length + 4 := Nat.le_succ_of_le (Nat.succ_le_succ hk)
      exact ⟨done, p, rest, ts, _, hpackets, hu', ht, rfl, by simpa using hcalls, hk'⟩
    · rw [hd] at hu' ⊢
      exact ⟨done, p, rest, ts, hpackets, hu', hasks, hcalls, Nat.succ_le_succ hk⟩

/-- A response that is sent is sent as a whole. -/
theorem send_ok {host host' : Host} {responses : List ByteArray} {response : ByteArray}
    {bytes : Nat} (hl : host.Linked a rest responses)
    (hs : host.send (a + 1) response = (.ok bytes, host')) :
    bytes = response.size ∧ host'.Linked a rest (responses ++ [response]) := by
  by_cases hsize : response.size ≤ Host.packetSizeLimit
  · rw [hl.send_server hsize] at hs
    cases hs
    exact ⟨rfl, hl.setSocket_client _⟩
  · rw [Host.send, hl.server] at hs
    dsimp only at hs
    rw [if_neg Bool.false_ne_true, if_pos (Nat.lt_of_not_le hsize)] at hs
    cases hs

/-- A response is sent. -/
theorem stands_writes {response : ByteArray} {bytes : Nat} {host : Host}
    (hp : d.connection.phase = .writing response) (hs : Stands table a packets k d)
    (hsent : d.host.send d.connection.stream response = (.ok bytes, host)) :
    Stands table a packets (k + 1) { d with
      connection := { d.connection with
        phase := if bytes < response.size then .flagging else .testing }
      host } := by
  rw [Stands, hp] at hs
  obtain ⟨done, packet, rest, ts, t, hpackets, hu, ht, rfl, hcalls, hk⟩ := hs
  rw [hu.stream] at hsent
  obtain ⟨rfl, hlinked⟩ := send_ok hu.linked hsent
  rw [if_neg (Nat.lt_irrefl _)]
  refine ⟨done ++ [packet], rest, ts ++ [t], ?_, ?_, hcalls, fun _ => ?_⟩
  · rw [hpackets, List.append_assoc]
    rfl
  · refine { hu with treated := List.rel_append hu.treated (.cons ht .nil), linked := ?_ }
    rw [List.map_append]
    exact hlinked
  · rw [List.length_append]
    show k + 1 ≤ 5 * (done.length + 1)
    omega

/-- **Every step keeps a dialogue in line.** -/
theorem Next.stands (hn : Next table d d') (hne : ∀ p ∈ packets, p.size ≠ 0)
    (hs : Stands table a packets k d) : Stands table a packets (k + 1) d' := by
  cases hn with
  | tests c hstep =>
    cases Connection.step?_eq_some_iff.mp hstep with
    | tests hp =>
      rw [Stands, hp] at hs
      obtain ⟨done, rest, ts, hpackets, hu, hcalls, hk⟩ := hs
      rw [if_neg (ne_true_of_eq_false hu.inShutdown)]
      exact ⟨done, rest, ts, hpackets, { hu with }, hcalls,
        fun hrest => Nat.succ_le_succ (hk hrest)⟩
  | polls c hstep =>
    cases Connection.step?_eq_some_iff.mp hstep with
    | polls hp =>
      rw [Stands, hp] at hs
      obtain ⟨done, rest, ts, hpackets, hu, hcalls, hk⟩ := hs
      rw [if_neg (ne_true_of_eq_false hu.cancelled)]
      exact ⟨done, rest, ts, hpackets, { hu with }, hcalls,
        fun hrest => Nat.succ_le_succ (hk hrest)⟩
  | receives packet host c hr hstep =>
    cases Connection.step?_eq_some_iff.mp hstep with
    | receives _ hp => exact stands_receives hp hs hne hr
  | receiveWaits host c hr hstep =>
    cases Connection.step?_eq_some_iff.mp hstep with
    | receiveWaits hp =>
      rw [Stands, hp] at hs
      obtain ⟨done, rest, ts, hpackets, hu, hcalls, -⟩ := hs
      rw [hu.stream, Host.receive, hu.linked.server] at hr
      cases rest <;> cases hr
      exact ⟨done, [], ts, hpackets, { hu with }, hcalls, fun hrest => absurd rfl hrest⟩
  | receiveFails errno host c hr hstep =>
    cases Connection.step?_eq_some_iff.mp hstep with
    | receiveFails hp =>
      rw [Stands, hp] at hs
      obtain ⟨done, rest, ts, -, hu, -, -⟩ := hs
      rw [hu.stream, Host.receive, hu.linked.server] at hr
      cases rest <;> cases hr
  | answers handler argument result c hp hstep =>
    cases Connection.step?_eq_some_iff.mp hstep with
    | answers =>
      rw [Stands, hp] at hs
      obtain ⟨done, packet, rest, ts, hpackets, hu, hasks, hcalls, hk⟩ := hs
      refine ⟨done, packet, rest, ts, _, hpackets, { hu with }, Request.treats_of_asks hasks result,
        rfl, ?_, Nat.succ_le_succ hk⟩
      simpa using hcalls
  | writes response bytes host c hp hsent hstep =>
    cases Connection.step?_eq_some_iff.mp hstep with
    | writes response' _ hp' =>
      obtain rfl : response = response' := ConnectionPhase.writing.inj (hp.symm.trans hp')
      exact stands_writes hp hs hsent
  | flags c hstep =>
    cases Connection.step?_eq_some_iff.mp hstep with
    | flags hp => rw [Stands, hp] at hs; exact hs.elim
  | shuts c hstep =>
    cases Connection.step?_eq_some_iff.mp hstep with
    | shuts hp => rw [Stands, hp] at hs; exact hs.elim
  | cancels c hstep =>
    cases Connection.step?_eq_some_iff.mp hstep with
    | cancels hp => rw [Stands, hp] at hs; exact hs.elim

theorem After.stands {d₀ : Dialogue η} (h : After table d₀ k d) (hne : ∀ p ∈ packets, p.size ≠ 0)
    (hs : Stands table a packets 0 d₀) : Stands table a packets k d := by
  induction h with
  | start => exact hs
  | next k d' d'' _ hn ih => exact hn.stands hne ih

/-! ## The whole dialogue -/

/-- A dialogue goes on, unless its response is too long for the host. -/
theorem Stands.exists_next (hs : Stands table a packets k d) :
    (∃ d', Next table d d') ∨ ∃ response, d.connection.phase = .writing response ∧
      Host.packetSizeLimit < response.size := by
  have hstep {e : ConnectionEvent} {c : Connection η} (h : d.connection.Step table e c) :=
    Connection.step?_eq_some_iff.mpr h
  unfold Stands at hs
  split at hs
  case h_1 hp => exact Or.inl ⟨_, .tests _ (hstep (.tests hp))⟩
  case h_2 hp => exact Or.inl ⟨_, .polls _ (hstep (.polls hp))⟩
  case h_3 hp =>
    obtain ⟨done, rest, ts, -, hu, -, -⟩ := hs
    cases rest with
    | nil =>
      have hr : d.host.receive d.connection.stream (packetLimit + 1) = (.wouldBlock, d.host) := by
        rw [hu.stream, Host.receive, hu.linked.server]
        rfl
      exact Or.inl ⟨_, .receiveWaits _ _ hr (hstep (.receiveWaits hp))⟩
    | cons packet rest =>
      have hr := hu.linked.receive (packetLimit + 1)
      rw [← hu.stream] at hr
      exact Or.inl ⟨_, .receives _ _ _ hr (hstep (.receives _ hp))⟩
  case h_4 handler argument hp =>
    exact Or.inl ⟨_, .answers handler argument (.ok "") _ hp (hstep (.answers _ _ _ hp))⟩
  case h_5 response hp =>
    obtain ⟨done, packet, rest, ts, t, -, hu, -, -, -, -⟩ := hs
    rcases Nat.lt_or_ge Host.packetSizeLimit response.size with hlong | hfits
    · exact Or.inr ⟨response, hp, hlong⟩
    · have hsent := hu.linked.send_server hfits
      rw [← hu.stream] at hsent
      exact Or.inl ⟨_, .writes _ _ _ _ hp hsent (hstep (.writes _ _ hp))⟩
  case h_6 => exact hs.elim

/-- The account of a dialogue after `k` steps: the packets that are done and how each was treated,
and the packets that are left. -/
structure Account (table : HandlerTable η) (a : SocketId) (packets : List ByteArray) (k : Nat)
    (d : Dialogue η) (done rest : List ByteArray) (ts : List (Treatment η)) : Prop where
  split : packets = done ++ rest
  /-- Each packet that is done was treated by itself, and in order. -/
  treated : List.Forall₂ (Request.Treats table) done ts
  /-- The client has one response to each packet that is done, and nothing else. -/
  responses : (d.host.endpoint? a).map (·.inbox) = some (ts.map fun t => Text.encode t.response)
  /-- The handlers have returned from the calls for the packets that are done, and perhaps from the
  one for the next packet. -/
  calls : d.calls = ts.filterMap (·.call?) ∨ ∃ packet rest' t, rest = packet :: rest' ∧
    Request.Treats table packet t ∧ d.calls = (ts ++ [t]).filterMap (·.call?)
  /-- A handler that is at work was called for the next packet, and not before. -/
  called : ∀ handler argument, d.connection.phase = .handling handler argument →
    d.calls = ts.filterMap (·.call?) ∧
      ∃ packet rest', rest = packet :: rest' ∧ Request.Asks table packet handler argument
  /-- The loop has not ended. -/
  serving : d.connection.phase.isServing = true
  /-- No packet takes more than five steps. -/
  prompt : 5 * packets.length ≤ k → rest = []

theorem not_prompt {packet : ByteArray} {n : Nat} (hk : k ≤ 5 * done.length + n) (hn : n < 5) :
    ¬ 5 * (done ++ packet :: rest).length ≤ k := by
  rw [List.length_append, List.length_cons]
  omega

theorem Idle.account {place : Nat} (h : Idle table a packets place k d) (hplace : place < 5)
    (hp : d.connection.phase.isServing = true)
    (hh : ∀ handler argument, d.connection.phase ≠ .handling handler argument) :
    ∃ done rest ts, Account table a packets k d done rest ts := by
  obtain ⟨done, rest, ts, hpackets, hu, hcalls, hk⟩ := h
  refine ⟨done, rest, ts, hpackets, hu.treated, ?_, Or.inl hcalls,
    fun handler argument hphase => absurd hphase (hh handler argument), hp, fun hlong => ?_⟩
  · rw [hu.linked.client]
    rfl
  · cases rest with
    | nil => rfl
    | cons packet rest =>
      rw [hpackets] at hlong
      exact absurd hlong (not_prompt (hk (List.cons_ne_nil _ _)) hplace)

theorem Stands.account (hs : Stands table a packets k d) :
    ∃ done rest ts, Account table a packets k d done rest ts := by
  unfold Stands at hs
  split at hs
  case h_1 hp => exact hs.account (by decide) (by rw [hp]; rfl) (by rw [hp]; rintro _ _ ⟨⟩)
  case h_2 hp => exact hs.account (by decide) (by rw [hp]; rfl) (by rw [hp]; rintro _ _ ⟨⟩)
  case h_3 hp => exact hs.account (by decide) (by rw [hp]; rfl) (by rw [hp]; rintro _ _ ⟨⟩)
  case h_4 handler argument hp =>
    obtain ⟨done, packet, rest, ts, hpackets, hu, hasks, hcalls, hk⟩ := hs
    refine ⟨done, packet :: rest, ts, hpackets, hu.treated, ?_, Or.inl hcalls,
      fun handler' argument' hp' => ?_, by rw [hp]; rfl, fun hlong => ?_⟩
    · rw [hu.linked.client]
      rfl
    · rw [hp] at hp'
      cases hp'
      exact ⟨hcalls, packet, rest, rfl, hasks⟩
    · rw [hpackets] at hlong
      exact absurd hlong (not_prompt hk (by decide))
  case h_5 response hp =>
    obtain ⟨done, packet, rest, ts, t, hpackets, hu, ht, -, hcalls, hk⟩ := hs
    refine ⟨done, packet :: rest, ts, hpackets, hu.treated, ?_,
      Or.inr ⟨packet, rest, t, rfl, ht, hcalls⟩, ?_, by rw [hp]; rfl, fun hlong => ?_⟩
    · rw [hu.linked.client]
      rfl
    · rw [hp]
      rintro _ _ ⟨⟩
    · rw [hpackets] at hlong
      exact absurd hlong (not_prompt hk (by decide))
  case h_6 => exact hs.elim

/-- **Every packet is answered, once and in order, and each one by itself**: nothing that a packet
holds and nothing that a handler returns ends the loop or changes how a later packet is treated.  A
dialogue never stops, unless a response is too long for the host. -/
theorem answers_every_packet {host : Host} (hl : host.Linked a packets [])
    (hne : ∀ p ∈ packets, p.size ≠ 0) :
    (∀ k d, After table (start host (a + 1)) k d →
      (∃ done rest ts, Account table a packets k d done rest ts) ∧
      ((∃ d', Next table d d') ∨ ∃ response, d.connection.phase = .writing response ∧
        Host.packetSizeLimit < response.size)) ∧
    ∀ packet t t', Request.Treats table packet t → Request.Treats table packet t' →
      t.call?.map (·.result) = t'.call?.map (·.result) → t = t' := by
  refine ⟨fun k d hd => ?_, fun packet t t' ht ht' => ht.eq ht'⟩
  have hs : Stands table a packets k d := hd.stands hne (stands_start hl)
  exact ⟨hs.account, hs.exists_next⟩

/-- The packets `ping x` and `foo`. -/
def pingAndFoo : List ByteArray := [Text.encode "ping x", Text.encode "foo"]

/-- A host on which a client has sent them. -/
def pinged : Host where
  files := default
  sockets := ⟨[(0, .endpoint { peer := 1 }), (1, .endpoint { peer := 0, inbox := pingAndFoo })],
    by decide⟩

/-- A handler of `PING`. -/
def pingTable : HandlerTable Nat := ⟨[("PING", 7)], by decide⟩

theorem asks_ping : Request.Asks pingTable (Text.encode "ping x") 7 "x" :=
  ⟨by decide +kernel, "ping", .spaced "x" (by decide +kernel) (by decide), by decide +kernel⟩

theorem treats_foo :
    Request.Treats pingTable (Text.encode "foo") ⟨none, "- unknown command \"FOO\""⟩ := by
  have hresponse : "- unknown command \"FOO\"" =
      "- unknown command " ++ Text.quoted (Text.uppercase "foo") := by decide +kernel
  rw [hresponse]
  exact .unknown "foo" "" (by decide +kernel) (.alone rfl (by decide)) (by decide +kernel)

/-- Whatever the handler of the first packet returns, the second one is answered after it. -/
theorem answers_every_packet_of_two :
    pinged.Linked 0 pingAndFoo [] ∧ (∀ p ∈ pingAndFoo, p.size ≠ 0) ∧
    ∀ k d, After pingTable (start pinged 1) k d → 10 ≤ k →
      ∃ result, d.calls = [⟨7, "x", result⟩] ∧ (d.host.endpoint? 0).map (·.inbox) = some
        [Text.encode (Response.ofResult result).text, Text.encode "- unknown command \"FOO\""] := by
  have hl : pinged.Linked 0 pingAndFoo [] := ⟨rfl, rfl⟩
  have hne : ∀ p ∈ pingAndFoo, p.size ≠ 0 := by decide +kernel
  refine ⟨hl, hne, fun k d hd hk => ?_⟩
  obtain ⟨⟨done, rest, ts, hacc⟩, -⟩ := (answers_every_packet hl hne).1 k d hd
  obtain rfl : rest = [] := hacc.prompt hk
  obtain rfl : pingAndFoo = done := hacc.split.trans (List.append_nil done)
  obtain ⟨t, _, ht, htail, rfl⟩ := List.forall₂_cons_left_iff.mp hacc.treated
  obtain ⟨t', _, ht', hnil, rfl⟩ := List.forall₂_cons_left_iff.mp htail
  obtain rfl := List.forall₂_nil_left_iff.mp hnil
  obtain ⟨result, rfl⟩ := ht.exists_result asks_ping
  obtain rfl := ht'.eq_of_not_called treats_foo
  refine ⟨result, ?_, hacc.responses⟩
  rcases hacc.calls with hcalls | ⟨_, _, _, hrest, _⟩
  · exact hcalls
  · cases hrest

end Dialogue

end FsidRegistry

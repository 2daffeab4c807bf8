import Mathlib.Data.List.Forall2
import Mathlib.Data.List.TakeWhile
import FsidRegistry.Proofs.Server.Step
import FsidRegistry.Proofs.Text.Encoded

/-!
# How a request is treated

What a request packet asks for is told by its bytes: they are a verb, or a verb, a space and an
argument.  `Request.Treats` lists what may come of a packet in these terms, and
`Request.treats_iff_dispatch` says that it is what `Request.dispatch` makes of it.

* `Request.reads_iff`: how a packet reads is how its line is split.
* `Request.Treats.eq`: the treatment of a packet depends on the packet and on what its handler
  returns, and on nothing else.
-/

namespace FsidRegistry

variable {η : Type}

/-- A call of a handler that has returned. -/
structure HandlerCall (η : Type) where
  handler : η
  argument : String
  result : Except Error String

/-- How a request was treated. -/
structure Treatment (η : Type) where
  /-- The call that was made for it, if any. -/
  call? : Option (HandlerCall η)
  response : String

namespace Request

variable {table : HandlerTable η} {packet : ByteArray} {verb argument line : String}

/-! ## Lines -/

/-- How a packet reads. -/
inductive Reads (packet : ByteArray) (verb : String) : String → Prop
  | alone (h : packet = Text.encode verb) (hv : ' ' ∉ verb.toList) : Reads packet verb ""
  | spaced (argument : String) (h : packet = Text.encode (verb ++ " " ++ argument))
      (hv : ' ' ∉ verb.toList) : Reads packet verb argument

theorem ne_space_of_not_mem {c : Char} {cs : List Char} (hv : ' ' ∉ cs) (hc : c ∈ cs) :
    (c != ' ') = true := by
  rw [bne_iff_ne]
  rintro rfl
  exact hv hc

theorem split_alone (hv : ' ' ∉ verb.toList) : split verb = (verb, "") := by
  have hall : ∀ c ∈ verb.toList, (c != ' ') = true := fun c => ne_space_of_not_mem hv
  rw [split, List.takeWhile_eq_self_iff.mpr hall, List.dropWhile_eq_nil_iff.mpr hall,
    String.ofList_toList]
  rfl

theorem split_spaced (hv : ' ' ∉ verb.toList) (argument : String) :
    split (verb ++ " " ++ argument) = (verb, argument) := by
  have hall : ∀ c ∈ verb.toList, (c != ' ') = true := fun c => ne_space_of_not_mem hv
  have hline : (verb ++ " " ++ argument).toList = verb.toList ++ ' ' :: argument.toList := by
    rw [String.toList_append, String.toList_append, List.append_assoc]
    rfl
  rw [split, hline, List.takeWhile_append_of_pos hall, List.dropWhile_append_of_pos hall]
  simp

/-- A line is a verb, or a verb, a space and an argument. -/
theorem eq_or_spaced (line : String) :
    ∃ verb : String, ' ' ∉ verb.toList ∧
      (line = verb ∨ ∃ argument, line = verb ++ " " ++ argument) := by
  by_cases h : ' ' ∈ line.toList
  · obtain ⟨cs, ds, hline, hv⟩ := List.eq_append_cons_of_mem h
    refine ⟨String.ofList cs, by rwa [String.toList_ofList], Or.inr ⟨String.ofList ds, ?_⟩⟩
    refine String.toList_inj.mp ?_
    rw [hline]
    simp
  · exact ⟨line, h, Or.inl rfl⟩

/-- How a packet reads is how its line is split. -/
theorem reads_iff :
    Reads packet verb argument ↔
      ∃ line, Text.decode? packet = some line ∧ split line = (verb, argument) := by
  constructor
  · rintro (⟨rfl, hv⟩ | ⟨_, rfl, hv⟩)
    · exact ⟨verb, Text.decode?_encode verb, split_alone hv⟩
    · exact ⟨_, Text.decode?_encode _, split_spaced hv argument⟩
  · rintro ⟨line, hline, hsplit⟩
    obtain ⟨v, hv, rfl | ⟨a, rfl⟩⟩ := eq_or_spaced line
    · rw [split_alone hv] at hsplit
      cases hsplit
      exact .alone (Text.decode?_eq_some_iff.mp hline) hv
    · rw [split_spaced hv] at hsplit
      cases hsplit
      exact .spaced argument (Text.decode?_eq_some_iff.mp hline) hv

/-! ## Treatments -/

/-- The handler that a packet asks for, and the argument that it is called with. -/
structure Asks (table : HandlerTable η) (packet : ByteArray) (handler : η) (argument : String) :
    Prop where
  fits : packet.size ≤ 8192
  reads : ∃ verb, Reads packet verb argument ∧ table.get? (Text.uppercase verb) = some handler

/-- What may come of a request packet. -/
inductive Treats (table : HandlerTable η) (packet : ByteArray) : Treatment η → Prop
  | tooLong (h : 8192 < packet.size) : Treats table packet ⟨none, "- message truncated"⟩
  | notText (h : packet.size ≤ 8192) (ht : ∀ line, packet ≠ Text.encode line) :
    Treats table packet ⟨none, "- invalid argument"⟩
  | unknown (verb argument : String) (h : packet.size ≤ 8192) (hr : Reads packet verb argument)
      (ht : table.get? (Text.uppercase verb) = none) :
    Treats table packet ⟨none, "- unknown command " ++ Text.quoted (Text.uppercase verb)⟩
  | succeeds (handler : η) (argument value : String) (h : Asks table packet handler argument) :
    Treats table packet ⟨some ⟨handler, argument, .ok value⟩, "+ " ++ value⟩
  | fails (handler : η) (argument : String) (e : Error) (h : Asks table packet handler argument) :
    Treats table packet ⟨some ⟨handler, argument, .error e⟩, "- " ++ e.message⟩

/-! ## Dispatch -/

theorem dispatch_tooLong (h : 8192 < packet.size) :
    dispatch table packet = .respond (.err "message truncated") := if_pos h

theorem dispatch_notText (hsize : packet.size ≤ 8192) (h : Text.decode? packet = none) :
    dispatch table packet = .respond (.err "invalid argument") := by
  have hfits : ¬ packetLimit < packet.size := Nat.not_lt.mpr hsize
  rw [dispatch, if_neg hfits, h]
  rfl

theorem dispatch_unknown (hsize : packet.size ≤ 8192) (hline : Text.decode? packet = some line)
    (hsplit : split line = (verb, argument)) (hget : table.get? (Text.uppercase verb) = none) :
    dispatch table packet =
      .respond (.err ("unknown command " ++ Text.quoted (Text.uppercase verb))) := by
  have hfits : ¬ packetLimit < packet.size := Nat.not_lt.mpr hsize
  rw [dispatch, if_neg hfits, hline]
  simp only [hsplit, hget]

theorem dispatch_known {handler : η} (hsize : packet.size ≤ 8192)
    (hline : Text.decode? packet = some line) (hsplit : split line = (verb, argument))
    (hget : table.get? (Text.uppercase verb) = some handler) :
    dispatch table packet = .call handler argument := by
  have hfits : ¬ packetLimit < packet.size := Nat.not_lt.mpr hsize
  rw [dispatch, if_neg hfits, hline]
  simp only [hsplit, hget]

/-- A handler is called as the packet asks for it. -/
theorem dispatch_of_asks {handler : η} (h : Asks table packet handler argument) :
    dispatch table packet = .call handler argument := by
  obtain ⟨hsize, verb, hreads, hget⟩ := h
  obtain ⟨line, hline, hsplit⟩ := reads_iff.mp hreads
  exact dispatch_known hsize hline hsplit hget

/-- There is nothing else that a packet can be. -/
theorem dispatch_cases (table : HandlerTable η) (packet : ByteArray) :
    (∃ response, dispatch table packet = .respond response ∧
      Treats table packet ⟨none, response.text⟩) ∨
    ∃ handler argument, dispatch table packet = .call handler argument ∧
      Asks table packet handler argument := by
  by_cases hsize : packet.size ≤ 8192
  · cases hline : Text.decode? packet with
    | none =>
      refine Or.inl ⟨_, dispatch_notText hsize hline, .notText hsize fun line hpacket => ?_⟩
      rw [Text.decode?_eq_some_iff.mpr hpacket] at hline
      cases hline
    | some line =>
      rcases hsplit : split line with ⟨verb, argument⟩
      have hreads : Reads packet verb argument := reads_iff.mpr ⟨line, hline, hsplit⟩
      cases hget : table.get? (Text.uppercase verb) with
      | none =>
        refine Or.inl ⟨_, dispatch_unknown hsize hline hsplit hget, ?_⟩
        rw [Response.text, ← String.append_assoc]
        exact .unknown _ _ hsize hreads hget
      | some handler =>
        exact Or.inr ⟨handler, _, dispatch_known hsize hline hsplit hget, hsize, _, hreads, hget⟩
  · have hlong : 8192 < packet.size := Nat.lt_of_not_le hsize
    exact Or.inl ⟨_, dispatch_tooLong hlong, .tooLong hlong⟩

/-- What a handler returns is responded. -/
theorem treats_of_asks {handler : η} (h : Asks table packet handler argument)
    (result : Except Error String) :
    Treats table packet ⟨some ⟨handler, argument, result⟩, (Response.ofResult result).text⟩ := by
  cases result with
  | ok value => exact .succeeds handler argument value h
  | error e => exact .fails handler argument e h

/-- A treatment is what `dispatch` makes of the packet. -/
theorem Treats.dispatch {t : Treatment η} (h : Treats table packet t) :
    (∃ response, Request.dispatch table packet = .respond response ∧ t = ⟨none, response.text⟩) ∨
    ∃ handler argument result, Request.dispatch table packet = .call handler argument ∧
      t = ⟨some ⟨handler, argument, result⟩, (Response.ofResult result).text⟩ := by
  cases h with
  | tooLong hlong => exact Or.inl ⟨_, dispatch_tooLong hlong, rfl⟩
  | notText hsize htext =>
    refine Or.inl ⟨_, dispatch_notText hsize ?_, rfl⟩
    exact Option.eq_none_iff_forall_ne_some.mpr fun line hline =>
      htext line (Text.decode?_eq_some_iff.mp hline)
  | unknown verb argument hsize hreads hget =>
    obtain ⟨line, hline, hsplit⟩ := reads_iff.mp hreads
    refine Or.inl ⟨_, dispatch_unknown hsize hline hsplit hget, ?_⟩
    rw [Response.text, ← String.append_assoc]
    rfl
  | succeeds handler argument value hasks =>
    exact Or.inr ⟨handler, argument, .ok value, dispatch_of_asks hasks, rfl⟩
  | fails handler argument e hasks =>
    exact Or.inr ⟨handler, argument, .error e, dispatch_of_asks hasks, rfl⟩

/-- A packet that asks for a handler is treated by what the handler returns. -/
theorem Treats.exists_result {handler : η} {t : Treatment η} (h : Treats table packet t)
    (hasks : Asks table packet handler argument) :
    ∃ result, t = ⟨some ⟨handler, argument, result⟩, (Response.ofResult result).text⟩ := by
  rcases h.dispatch with ⟨response, hd, _⟩ | ⟨handler', argument', result, hd, rfl⟩
  · rw [dispatch_of_asks hasks] at hd
    cases hd
  · rw [dispatch_of_asks hasks] at hd
    cases hd
    exact ⟨result, rfl⟩

/-- A packet for which no handler is called is treated in one way. -/
theorem Treats.eq_of_not_called {response : String} {t : Treatment η}
    (h : Treats table packet t) (h' : Treats table packet ⟨none, response⟩) :
    t = ⟨none, response⟩ := by
  rcases h'.dispatch with ⟨r, hd, hr⟩ | ⟨_, _, _, _, hcall⟩
  · rcases h.dispatch with ⟨r', hd', rfl⟩ | ⟨_, _, _, hd', _⟩
    · rw [hd] at hd'
      cases hd'
      exact hr.symm
    · rw [hd] at hd'
      cases hd'
  · cases hcall

/-- The treatment of a packet depends on the packet and on what its handler returns. -/
theorem Treats.eq {t t' : Treatment η} (h : Treats table packet t) (h' : Treats table packet t')
    (hresult : t.call?.map (·.result) = t'.call?.map (·.result)) : t = t' := by
  obtain ⟨call, response⟩ := t'
  cases call with
  | none => exact h.eq_of_not_called h'
  | some call =>
    rcases h'.dispatch with ⟨_, _, hnone⟩ | ⟨handler, argument, result', hd, ht'⟩
    · cases hnone
    · rcases h.dispatch with ⟨_, hd', _⟩ | ⟨_, _, result, hd', rfl⟩
      · rw [hd] at hd'
        cases hd'
      · rw [hd] at hd'
        cases hd'
        cases ht'
        cases hresult
        rfl

end Request

end FsidRegistry

import FsidRegistry.Proofs.Cache.Worker
import FsidRegistry.Proofs.Text.Size
import FsidRegistry.Server.Service

/-!
# The registry as a list of paths

All that a registry ever knows is the list of the paths that have an fsid, in the order in which
they came.  `Ledger.respond` is the protocol over such a list, in as few words as it can be told.

* `Ledger.respond`: the response to a packet, and the list after it.
* `Ledger.dispatch_commandTable`: what a server with the four commands decides about a packet is
  what the list says.
* `Ledger.perform_of_start`, `Ledger.perform_of_resolved`: what a command returns is what the list
  says, if its call of the cache ends so.
* `Ledger.respond_distinct`: the paths on the list stay, and stay distinct.
* `Ledger.respond_fits`: every response fits into a packet.
-/

namespace FsidRegistry

/-- The paths that have an fsid, oldest first. -/
abbrev Ledger : Type := List String

namespace Ledger

/-! ## The protocol -/

/-- A line cut at its first space. -/
def cut (line : String) : String × String :=
  match line.toList.idxOf? ' ' with
  | some i => (String.ofList (line.toList.take i), String.ofList (line.toList.drop (i + 1)))
  | none => (line, "")

/-- The number that decimal digits denote, if there are digits and nothing else. -/
def decimal? (digits : List Char) : Option Nat :=
  if digits ≠ [] ∧ digits.all Char.isDigit = true then
    some (digits.foldl (fun n c => 10 * n + (c.toNat - 48)) 0)
  else none

/-- The number of a text, with a plus sign before its digits or without. -/
def number? (text : String) : Option Nat :=
  match text.toList with
  | '+' :: digits => decimal? digits
  | digits => decimal? digits

/-- The fsid of a path, a new one if it has none. -/
def getOrCreate (paths : Ledger) (path : String) : String × Ledger :=
  if path = "" then ("- invalid argument", paths)
  else match paths.idxOf? path with
    | some i => ("+ " ++ toString (i + 1), paths)
    | none =>
      if paths.length < issuable then ("+ " ++ toString (paths.length + 1), paths ++ [path])
      else ("- fsid space exhausted", paths)

/-- The fsid of a path, if it has one. -/
def get (paths : Ledger) (path : String) : String :=
  if path = "" then "- invalid argument"
  else match paths.idxOf? path with
    | some i => "+ " ++ toString (i + 1)
    | none => "+ "

/-- The path of an fsid, if it was issued. -/
def getPath (paths : Ledger) (argument : String) : String :=
  match number? argument with
  | none => "- invalid argument"
  | some n =>
    if 1 ≤ n ∧ n ≤ 2147483647 then "+ " ++ paths[n - 1]?.getD "" else "- invalid argument"

/-- The response to a verb with an argument. -/
def perform (paths : Ledger) (verb argument : String) : String × Ledger :=
  if verb = "GET_OR_CREATE_FSIDNUM" then getOrCreate paths argument
  else if verb = "GET_FSIDNUM" then (get paths argument, paths)
  else if verb = "GET_PATH" then (getPath paths argument, paths)
  else if verb = "VERSION" then ("+ 1", paths)
  else ("- unknown command " ++ Text.quoted verb, paths)

/-- The response to a packet. -/
def respond (paths : Ledger) (packet : ByteArray) : String × Ledger :=
  if 8192 < packet.size then ("- message truncated", paths)
  else match String.fromUTF8? packet with
    | none => ("- invalid argument", paths)
    | some line => perform paths (Text.uppercase (cut line).1) (cut line).2

/-! ## Lines and numbers -/

theorem cut_list (cs : List Char) :
    (cs.takeWhile (· != ' '), (cs.dropWhile (· != ' ')).drop 1) =
      match cs.idxOf? ' ' with
      | some i => (cs.take i, cs.drop (i + 1))
      | none => (cs, []) := by
  induction cs with
  | nil => rfl
  | cons c cs ih =>
    rw [List.idxOf?_cons]
    by_cases hc : c = ' '
    · subst hc
      rfl
    · rw [List.takeWhile_cons_of_pos (by simpa using hc),
        List.dropWhile_cons_of_pos (by simpa using hc), if_neg (by simpa using hc)]
      cases hi : cs.idxOf? ' ' with
      | none =>
        rw [hi] at ih
        obtain ⟨h1, h2⟩ := Prod.mk.inj ih
        rw [h1, h2]
        rfl
      | some i =>
        rw [hi] at ih
        obtain ⟨h1, h2⟩ := Prod.mk.inj ih
        rw [h1, h2]
        rfl

/-- A line is cut where a server cuts it. -/
theorem split_eq_cut (line : String) : Request.split line = cut line := by
  have h := cut_list line.toList
  unfold cut
  cases hi : line.toList.idxOf? ' ' with
  | none =>
    rw [hi] at h
    obtain ⟨h1, h2⟩ := Prod.mk.inj h
    rw [Request.split, h1, h2, String.ofList_toList]
  | some i =>
    rw [hi] at h
    obtain ⟨h1, h2⟩ := Prod.mk.inj h
    rw [Request.split, h1, h2]

theorem readDigits?_eq_decimal? (digits : List Char) :
    Number.readDigits? digits = decimal? digits := by
  unfold Number.readDigits? decimal?
  cases digits with
  | nil => rfl
  | cons c cs =>
    cases hall : (c :: cs).all Char.isDigit with
    | false => rfl
    | true => rfl

theorem readUnsigned?_eq_number? (text : String) :
    Number.readUnsigned? text.toList = number? text := by
  have hdigits : Number.readDigits? = decimal? := funext readDigits?_eq_decimal?
  unfold number?
  rw [← hdigits]
  rfl

/-- A number with a minus sign before it is not positive. -/
theorem readSigned?_eq_some_iff {text : String} {z : Int} (hz : 1 ≤ z) :
    Number.readSigned? text.toList = some z ↔ ∃ n : Nat, number? text = some n ∧ z = n := by
  rw [← readUnsigned?_eq_number?]
  unfold Number.readSigned?
  split
  · rename_i cs hcs
    constructor
    · intro h
      obtain ⟨m, hm, hz'⟩ := Option.map_eq_some_iff.mp h
      obtain ⟨n, _, hn⟩ := Option.bind_eq_some_iff.mp hm
      cases hn
      omega
    · rintro ⟨n, hn, _⟩
      rw [hcs, show Number.readUnsigned? ('-' :: cs) = Number.readDigits? ('-' :: cs) from rfl,
        readDigits?_eq_decimal?, decimal?, if_neg] at hn
      · cases hn
      · rintro ⟨_, hall⟩
        cases hall
  · constructor
    · intro h
      obtain ⟨n, hn, rfl⟩ := Option.map_eq_some_iff.mp h
      exact ⟨n, hn, rfl⟩
    · rintro ⟨n, hn, rfl⟩
      rw [hn]
      rfl

theorem ofInt?_eq_some_iff {z : Int} {fsid : Fsid} : Fsid.ofInt? z = some fsid ↔ fsid.val = z := by
  unfold Fsid.ofInt?
  constructor
  · intro h
    split at h
    · cases h
      rfl
    · cases h
  · rintro rfl
    rw [dif_pos ⟨fsid.lower, fsid.upper⟩]

/-- The fsids that can be asked for are the numbers from 1 to the largest fsid. -/
theorem readIssued?_eq_some_iff {text : String} {fsid : Fsid} :
    Fsid.readIssued? text = some fsid ↔
      ∃ n : Nat, number? text = some n ∧ 1 ≤ n ∧ fsid.val = n := by
  rw [Fsid.readIssued?, Option.filter_eq_some_iff, Fsid.read?, Option.bind_eq_some_iff,
    decide_eq_true_eq]
  constructor
  · rintro ⟨⟨z, hz, hf⟩, hpos⟩
    rw [ofInt?_eq_some_iff] at hf
    rw [hf] at hpos
    obtain ⟨n, hn, rfl⟩ := (readSigned?_eq_some_iff hpos).mp hz
    exact ⟨n, hn, by omega, hf⟩
  · rintro ⟨n, hn, hpos, hf⟩
    have hpos' : (1 : Int) ≤ n := by omega
    have hread := (readSigned?_eq_some_iff hpos').mpr ⟨n, hn, rfl⟩
    exact ⟨⟨n, hread, ofInt?_eq_some_iff.mpr hf⟩, hf ▸ hpos'⟩

theorem text_of_val {fsid : Fsid} {n : Nat} (h : fsid.val = n) : fsid.text = toString n := by
  rw [Fsid.text, h]
  rfl

theorem idxOf?_of_numbered {paths : Ledger} (hn : paths.Nodup) {pair : Pair}
    (h : Numbered paths pair) : ∃ i : Nat, paths.idxOf? pair.2 = some i ∧ pair.1.val = i + 1 := by
  obtain ⟨i, hi, hv⟩ := h
  obtain ⟨hlt, hget⟩ := List.getElem?_eq_some_iff.mp hi
  refine ⟨i, List.idxOf?_eq_some_iff.mpr ⟨hlt, hget, fun j hj he => ?_⟩, hv⟩
  have hji : j = i := (List.getElem?_inj (Nat.lt_trans hj hlt) hn).mp (by
    rw [hi, List.getElem?_eq_getElem (Nat.lt_trans hj hlt), he])
  omega

/-! ## Commands -/

/-- A command that ends without a call of the cache returns what the list says. -/
theorem perform_of_start {paths : Ledger} {command : Command} {argument : String}
    {result : Except Error String} (h : command.start argument = .error result) :
    perform paths command.verb argument = ((Response.ofResult result).text, paths) := by
  cases command with
  | getFsid =>
    rw [Command.start] at h
    split at h
    · rename_i he
      cases h
      rw [String.isEmpty_iff.mp he]
      rfl
    · cases h
  | getOrCreateFsid =>
    rw [Command.start] at h
    split at h
    · rename_i he
      cases h
      rw [String.isEmpty_iff.mp he]
      rfl
    · cases h
  | getPath =>
    rw [Command.start] at h
    split at h
    · cases h
    · rename_i hnone
      cases h
      show (getPath paths argument, paths) = ("- invalid argument", paths)
      rw [getPath]
      split
      · rfl
      · rename_i n hn
        rw [if_neg]
        rintro ⟨hpos, hle⟩
        have hsome : Fsid.readIssued? argument = some ⟨n, by omega, by omega⟩ :=
          readIssued?_eq_some_iff.mpr ⟨n, hn, hpos, rfl⟩
        rw [hnone] at hsome
        cases hsome
  | version =>
    cases h
    rfl

/-- A path that no pair of the list has is not on the list. -/
theorem idxOf?_of_forall_not {paths : Ledger} (hl : paths.length ≤ issuable) {path : String}
    (h : ∀ pair : Pair, pair.2 = path → ¬ Numbered paths pair) : paths.idxOf? path = none := by
  rw [List.idxOf?_eq_none_iff]
  intro hp
  obtain ⟨i, hi⟩ := List.getElem?_of_mem hp
  have hlt : i < paths.length := (List.getElem?_eq_some_iff.mp hi).1
  unfold issuable at hl
  exact h (⟨i + 1, by omega, by omega⟩, path) rfl ⟨i, hi, rfl⟩

variable {paths after : Ledger} {result : Except Error (Option Pair)}

theorem get_of_resolved {path : String} (hr : Resolved paths (.fsidOf path) result after)
    (hne : path ≠ "") (hn : paths.Nodup) (hl : paths.length ≤ issuable) :
    (get paths path, paths) =
      ((Response.ofResult (Command.getFsid.finish result)).text, after) := by
  rw [get, if_neg hne]
  cases hr with
  | found pair hnum hp =>
    obtain ⟨i, hi, hv⟩ := idxOf?_of_numbered hn hnum
    rw [← show pair.2 = path from hp, hi]
    show ("+ " ++ toString (i + 1), paths) = ("+ " ++ pair.1.text, paths)
    rw [text_of_val (n := i + 1) hv]
  | missed _ hp =>
    rw [idxOf?_of_forall_not hl hp]
    rfl
  | allocated _ _ hr | full _ hr => cases hr

theorem getOrCreate_of_resolved {path : String}
    (hr : Resolved paths (.fsidOrAllocate path) result after) (hne : path ≠ "")
    (hn : paths.Nodup) :
    getOrCreate paths path =
      ((Response.ofResult (Command.getOrCreateFsid.finish result)).text, after) := by
  rw [getOrCreate, if_neg hne]
  cases hr with
  | found pair hnum hp =>
    obtain ⟨i, hi, hv⟩ := idxOf?_of_numbered hn hnum
    rw [← show pair.2 = path from hp, hi]
    show ("+ " ++ toString (i + 1), paths) = ("+ " ++ pair.1.text, paths)
    rw [text_of_val (n := i + 1) hv]
  | missed hm _ => cases hm
  | allocated _ fsid hr hp hlt hf =>
    cases hr
    rw [List.idxOf?_eq_none_iff.mpr hp]
    show (if _ then _ else _) = ("+ " ++ fsid.text, paths ++ [path])
    rw [if_pos hlt, text_of_val (n := paths.length + 1) hf]
  | full _ hr hp hge =>
    cases hr
    rw [List.idxOf?_eq_none_iff.mpr hp]
    exact if_neg (Nat.not_lt.mpr hge)

theorem getPath_of_resolved {argument : String} {fsid : Fsid}
    (hf : Fsid.readIssued? argument = some fsid) (hr : Resolved paths (.pathOf fsid) result after) :
    (getPath paths argument, paths) =
      ((Response.ofResult (Command.getPath.finish result)).text, after) := by
  obtain ⟨n, hnum?, hpos, hv⟩ := readIssued?_eq_some_iff.mp hf
  have hle := fsid.upper
  rw [getPath, hnum?]
  dsimp only
  rw [if_pos ⟨hpos, by omega⟩]
  cases hr with
  | found pair hnum hp =>
    obtain ⟨i, hi, hv'⟩ := hnum
    have hin : n - 1 = i := by
      rw [show pair.1 = fsid from hp] at hv'
      omega
    rw [hin, hi]
    rfl
  | missed _ hp =>
    cases hget : paths[n - 1]? with
    | none => rfl
    | some path =>
      refine absurd ⟨n - 1, hget, ?_⟩ (hp (fsid, path) rfl)
      show fsid.val = ((n - 1 : Nat) : Int) + 1
      omega
  | allocated _ _ hr | full _ hr => cases hr

/-- A command returns what the list says, if its call of the cache ends so. -/
theorem perform_of_resolved {command : Command} {argument : String} {request : CacheRequest}
    (h : command.start argument = .ok request) (hr : Resolved paths request result after)
    (hn : paths.Nodup) (hl : paths.length ≤ issuable) :
    perform paths command.verb argument =
      ((Response.ofResult (command.finish result)).text, after) := by
  cases command with
  | getFsid =>
    rw [Command.start] at h
    split at h
    · cases h
    · rename_i he
      cases h
      exact get_of_resolved hr (fun hempty => he (String.isEmpty_iff.mpr hempty)) hn hl
  | getOrCreateFsid =>
    rw [Command.start] at h
    split at h
    · cases h
    · rename_i he
      cases h
      exact getOrCreate_of_resolved hr (fun hempty => he (String.isEmpty_iff.mpr hempty)) hn
  | getPath =>
    rw [Command.start] at h
    split at h
    · rename_i fsid hf
      cases h
      exact getPath_of_resolved hf hr
    · cases h
  | version => cases h

/-! ## Packets -/

/-- The handler table of a server with the four commands. -/
def commandTable : HandlerTable Handler :=
  Command.all.foldl (fun table c => table.insert c.verb (.command c)) ∅

theorem commandTable_get?_verb (command : Command) :
    commandTable.get? command.verb = some (.command command) := by
  cases command <;> rfl

theorem commandTable_get?_eq_none {verb : String} (h : ∀ c : Command, c.verb ≠ verb) :
    commandTable.get? verb = none := by
  simp only [commandTable, Command.all, List.foldl_cons, List.foldl_nil, Dictionary.get?_insert,
    if_neg (h _), Dictionary.get?_empty]

theorem perform_of_unknown (paths : Ledger) {verb : String} (argument : String)
    (h : ∀ c : Command, c.verb ≠ verb) :
    perform paths verb argument = ("- unknown command " ++ Text.quoted verb, paths) := by
  rw [perform, if_neg fun he => h .getOrCreateFsid he.symm, if_neg fun he => h .getFsid he.symm,
    if_neg fun he => h .getPath he.symm, if_neg fun he => h .version he.symm]

/-- **A server with the four commands answers a packet on the spot as the list says, or calls the
command that the list performs.** -/
theorem dispatch_commandTable (paths : Ledger) (packet : ByteArray) :
    (∃ response, Request.dispatch commandTable packet = .respond response ∧
      respond paths packet = (response.text, paths)) ∨
    ∃ command argument, Request.dispatch commandTable packet = .call (.command command) argument ∧
      respond paths packet = perform paths command.verb argument := by
  unfold Request.dispatch respond packetLimit
  by_cases hsize : 8192 < packet.size
  · rw [if_pos hsize, if_pos hsize]
    exact Or.inl ⟨_, rfl, rfl⟩
  rw [if_neg hsize, if_neg hsize]
  unfold Text.decode?
  cases String.fromUTF8? packet with
  | none => exact Or.inl ⟨_, rfl, rfl⟩
  | some line =>
    dsimp only
    rw [split_eq_cut]
    by_cases h : ∃ c : Command, c.verb = Text.uppercase (cut line).1
    · obtain ⟨c, hc⟩ := h
      rw [← hc, commandTable_get?_verb]
      exact Or.inr ⟨c, (cut line).2, rfl, rfl⟩
    · have hne : ∀ c : Command, c.verb ≠ Text.uppercase (cut line).1 := fun c hc => h ⟨c, hc⟩
      rw [commandTable_get?_eq_none hne, perform_of_unknown paths _ hne]
      refine Or.inl ⟨_, rfl, ?_⟩
      rw [Response.text, ← String.append_assoc]
      rfl

/-! ## The list -/

/-- No path is on the list twice, and the empty one is not on it. -/
def Distinct (paths : Ledger) : Prop := paths.Nodup ∧ "" ∉ paths

theorem getOrCreate_distinct (hd : paths.Distinct) (path : String) :
    (getOrCreate paths path).2.Distinct := by
  unfold getOrCreate
  split
  · exact hd
  rename_i hne
  split
  · exact hd
  rename_i hnone
  split
  · obtain ⟨hn, hempty⟩ := hd
    constructor
    · refine List.nodup_append.mpr ⟨hn, List.pairwise_singleton _ path, fun p hp q hq => ?_⟩
      rw [List.mem_singleton.mp hq]
      rintro rfl
      exact List.idxOf?_eq_none_iff.mp hnone hp
    · intro hmem
      rcases List.mem_append.mp hmem with hmem | hmem
      · exact hempty hmem
      · exact hne (List.mem_singleton.mp hmem).symm
  · exact hd

/-- A request changes the list at most by a new path at its end, and keeps its paths distinct. -/
theorem respond_distinct (hd : paths.Distinct) (packet : ByteArray) :
    (respond paths packet).2.Distinct ∧ paths <+: (respond paths packet).2 := by
  unfold respond
  split
  · exact ⟨hd, List.prefix_refl paths⟩
  split
  · exact ⟨hd, List.prefix_refl paths⟩
  unfold perform
  split
  · refine ⟨getOrCreate_distinct hd _, ?_⟩
    unfold getOrCreate
    repeat' split
    all_goals first
      | exact List.prefix_refl paths
      | exact List.prefix_append paths _
  · repeat' split
    all_goals exact ⟨hd, List.prefix_refl paths⟩

/-! ## Sizes -/

/-- Every path came in a packet. -/
def Short (paths : Ledger) : Prop := ∀ path ∈ paths, path.utf8ByteSize ≤ packetLimit

theorem cut_le (line : String) :
    (cut line).1.utf8ByteSize ≤ line.utf8ByteSize ∧
      (cut line).2.utf8ByteSize ≤ line.utf8ByteSize := by
  unfold cut
  have hline : (String.ofList line.toList).utf8ByteSize = line.utf8ByteSize := by
    rw [String.ofList_toList]
  split
  · rename_i i _
    have htake := Text.utf8ByteSize_le_of_sublist (List.take_sublist i line.toList)
    have hdrop := Text.utf8ByteSize_le_of_sublist (List.drop_sublist (i + 1) line.toList)
    exact ⟨hline ▸ htake, hline ▸ hdrop⟩
  · exact ⟨Nat.le_refl _, Nat.zero_le _⟩

theorem utf8ByteSize_position_le {n : Nat} (hn : n ≤ issuable) :
    ("+ " ++ toString n).utf8ByteSize ≤ 12 := by
  have hnum := Text.utf8ByteSize_toString_le (n := n) (by unfold issuable at hn; omega)
  rw [String.utf8ByteSize_append]
  have hsign : ("+ " : String).utf8ByteSize = 2 := by decide
  omega

theorem lt_length_of_idxOf? {path : String} {i : Nat} (h : paths.idxOf? path = some i) :
    i < paths.length :=
  (List.idxOf?_eq_some_iff.mp h).1

theorem getOrCreate_fits (hl : paths.length ≤ issuable) (path : String) :
    (getOrCreate paths path).1.utf8ByteSize ≤ 30 := by
  unfold getOrCreate
  split
  · dsimp only
    decide
  · split
    · rename_i i hi
      have hpos := utf8ByteSize_position_le (n := i + 1)
        (Nat.le_trans (lt_length_of_idxOf? hi) hl)
      exact Nat.le_trans hpos (by decide)
    · split
      · rename_i hlt
        exact Nat.le_trans (utf8ByteSize_position_le hlt) (by decide)
      · dsimp only
        decide

theorem get_fits (hl : paths.length ≤ issuable) (path : String) :
    (get paths path).utf8ByteSize ≤ 30 := by
  unfold get
  split
  · decide
  · split
    · rename_i i hi
      have hpos := utf8ByteSize_position_le (n := i + 1)
        (Nat.le_trans (lt_length_of_idxOf? hi) hl)
      exact Nat.le_trans hpos (by decide)
    · decide

theorem getPath_fits (hs : paths.Short) (argument : String) :
    (getPath paths argument).utf8ByteSize ≤ packetLimit + 30 := by
  unfold getPath
  split
  · decide
  · rename_i n _
    split
    · rw [String.utf8ByteSize_append]
      have hsign : ("+ " : String).utf8ByteSize = 2 := by decide
      cases hget : paths[n - 1]? with
      | none => decide
      | some path =>
        have hpath := hs path (List.mem_of_getElem? hget)
        show ("+ " : String).utf8ByteSize + path.utf8ByteSize ≤ _
        omega
    · decide

/-- Every response fits into a packet. -/
theorem respond_fits (hs : paths.Short) (hl : paths.length ≤ issuable) (packet : ByteArray) :
    (respond paths packet).1.utf8ByteSize ≤ Host.packetSizeLimit := by
  unfold respond
  split
  · dsimp only
    decide
  rename_i hsize
  split
  · dsimp only
    decide
  rename_i line hline
  have hbytes := Text.utf8ByteSize_of_decode? hline
  have hcut := cut_le line
  have hquoted := Text.utf8ByteSize_quoted_uppercase_le (cut line).1
  unfold Host.packetSizeLimit perform
  split
  · exact Nat.le_trans (getOrCreate_fits hl _) (by decide)
  split
  · exact Nat.le_trans (get_fits hl _) (by decide)
  split
  · exact Nat.le_trans (getPath_fits hs _) (by decide)
  split
  · dsimp only
    decide
  · have hwords : ("- unknown command " : String).utf8ByteSize = 18 := by decide
    rw [String.utf8ByteSize_append]
    omega

theorem getOrCreate_short (hs : paths.Short) {path : String}
    (hp : path.utf8ByteSize ≤ packetLimit) : (getOrCreate paths path).2.Short := by
  unfold getOrCreate
  split
  · exact hs
  · split
    · exact hs
    · split
      · intro q hq
        rcases List.mem_append.mp hq with hq | hq
        · exact hs q hq
        · rw [List.mem_singleton.mp hq]
          exact hp
      · exact hs

/-- Every path on the list came in a packet. -/
theorem respond_short (hs : paths.Short) (packet : ByteArray) : (respond paths packet).2.Short := by
  unfold respond
  split
  · exact hs
  rename_i hsize
  split
  · exact hs
  rename_i line hline
  have hbytes := Text.utf8ByteSize_of_decode? hline
  have hcut := cut_le line
  unfold perform
  split
  · exact getOrCreate_short hs (by unfold packetLimit; omega)
  · repeat' split
    all_goals exact hs

end Ledger

end FsidRegistry

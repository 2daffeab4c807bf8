import FsidRegistry.Proofs.Host.Sockets
import FsidRegistry.Proofs.Text.Percent
import FsidRegistry.Store.Sqlite

/-!
# Databases at plain paths

A location without the scheme is a plain path.  It is put into a URL as it stands, and the driver takes
the URL apart again: at its first `?`, and by percent decoding.  So the file that the driver is asked to
open is the one that the path names just if the path survives this.

The driver is not part of the program.  `DatabaseDriver.ReadsUrls` says what is relied on when it reads a
URL, and `DatabaseDriver.OpensFile` what is relied on when it opens a file.  `Sqlite.driver`, with which
the programs run, is shown to read URLs like that.

* `DatabaseDriver.ReadsUrls.names_itself_iff`: which paths are read back (`DatabaseUrl.SurvivesUrl`).
* `KeptStore.connect_decoded`: a path without `?` opens the file of the name that it decodes to, which
  another path may name as well.
* `KeptStore.plain_path_opens_its_file_iff`: when a plain path opens the file that it names.
-/

namespace FsidRegistry

/-! ## The URL of a plain path -/

namespace DatabaseUrl

variable {location : String} {url : DatabaseUrl}

/-- A location without the scheme. -/
def IsPlain (location : String) : Prop := ¬ "sqlite:".toList <+: location.toList

/-- A text stands for a name in a URL, in which it may have escapes. -/
def Decodes (text name : String) : Prop :=
  Text.percentDecode (Text.encode text).toList = (Text.encode name).toList

/-- A path that is read back from its URL. -/
structure SurvivesUrl (location : String) : Prop where
  notMemory : location ≠ ":memory:"
  noParameters : '?' ∉ location.toList
  noEscape : ¬ Text.HasEscape location.toList

theorem SurvivesUrl.decodes (h : SurvivesUrl location) : Decodes location location :=
  (Text.percentDecode_encode_eq_iff location).mpr h.noEscape

theorem ofLocation_plain (h : IsPlain location) :
    ofLocation location = "sqlite://" ++ location ++ "?mode=rwc" := by
  have hfalse : ¬ ("sqlite:".isPrefixOf location = true) := by
    intro htrue
    exact h (String.startsWith_string_iff.mp htrue)
  rw [ofLocation, if_neg hfalse]

theorem append_rwc (text : String) : text ++ "?mode=rwc" = text ++ "?" ++ "mode=rwc" := by
  rw [String.append_assoc]
  rfl

theorem IsPlain.of_prefix (h : IsPlain location) {before : String}
    (hp : before.toList <+: location.toList) : IsPlain before := by
  intro hscheme
  exact h (hscheme.trans hp)

/-- A plain path does not begin with the scheme when parameters follow it either. -/
theorem IsPlain.not_prefix (h : IsPlain location) (rest : List Char) :
    ¬ "sqlite:".toList <+: location.toList ++ '?' :: rest := by
  intro hprefix
  rcases List.prefix_or_prefix_of_prefix hprefix (List.prefix_append _ _) with hp | ⟨t, ht⟩
  · exact h hp
  · rw [← ht, List.prefix_append_right_inj] at hprefix
    cases t with
    | nil =>
      rw [List.append_nil] at ht
      exact h (ht ▸ List.prefix_refl _)
    | cons c t =>
      obtain ⟨rfl, -⟩ := List.cons_prefix_cons.mp hprefix
      have hmem : '?' ∈ "sqlite:".toList := by
        rw [← ht]
        simp
      exact absurd hmem (by decide)

/-- Decoding makes nothing longer. -/
theorem Decodes.length_le {text name : String} (h : Decodes text name) :
    (Text.encode name).toList.length ≤ (Text.encode text).toList.length := by
  rw [← h]
  exact Text.length_percentDecode_le _

end DatabaseUrl

/-! ## What is relied on -/

open DatabaseUrl (IsPlain Decodes SurvivesUrl)

/-- What is relied on of a driver when it reads a URL of a file with its scheme. -/
structure DatabaseDriver.ReadsUrls (driver : DatabaseDriver) : Prop where
  /-- The part before the first `?` has one meaning of its own, and decodes to the name of a file
  else. -/
  file : ∀ {before behind name : String} {url : DatabaseUrl}, IsPlain before → '?' ∉ before.toList →
    driver.read ("sqlite://" ++ before ++ "?" ++ behind) = .ok url → url.place = .file name →
    before ≠ ":memory:" ∧ Decodes before name
  /-- The parameter asks to open the file for reading and writing, and to create it. -/
  create : ∀ {before name : String}, IsPlain before → '?' ∉ before.toList → before ≠ ":memory:" →
    Decodes before name → driver.read ("sqlite://" ++ before ++ "?mode=rwc") =
      .ok { place := .file name, createIfMissing := true }

/-- How the file at a place is opened for reading and writing, by what the place holds: it is created
if it is absent. -/
inductive OpensAt (files : Files) (place : Place) : Option Entry → Database → Files → Prop
  | created : OpensAt files place none .empty (files.put place (.database .empty))
  | found (database : Database) : OpensAt files place (some (.database database)) database files
  | blank (content : ByteArray) (h : content.isEmpty) :
    OpensAt files place (some (.file content)) .empty files

/-- What is relied on of a driver when it opens the file of a name for reading and writing: it opens the
file where the name leads, and creates it if it is absent.  An engine has names of its own, for which it
does something else. -/
def DatabaseDriver.OpensFile (driver : DatabaseDriver) (files : Files) (name : String) : Prop :=
  ∀ (connections : UInt32) (place : Place) (entry : Option Entry) (database : Database)
    (files' : Files), files.find true name = .ok (place, entry) →
    OpensAt files place entry database files' →
    driver.openPool { place := .file name, createIfMissing := true } connections files =
      (.ok ({ database }, some place), files')

namespace DatabaseDriver.ReadsUrls

variable {driver : DatabaseDriver} {location : String}

/-- A plain path with parameters does not name itself: what stands before them is shorter. -/
theorem not_mem_of_names_itself (h : driver.ReadsUrls) (hplain : IsPlain location)
    {url : DatabaseUrl} (hread : driver.read (DatabaseUrl.ofLocation location) = .ok url)
    (hplace : url.place = .file location) : '?' ∉ location.toList := by
  intro hmem
  obtain ⟨cs, ds, hlocation, hcs⟩ := List.eq_append_cons_of_mem hmem
  let before := String.ofList cs
  have hbefore : before.toList = cs := String.toList_ofList
  have hsplit : location = before ++ "?" ++ String.ofList ds := by
    rw [← String.toList_inj, hlocation]
    simp [before, String.toList_append]
  have hurl : "sqlite://" ++ location ++ "?mode=rwc" =
      "sqlite://" ++ before ++ "?" ++ (String.ofList ds ++ "?mode=rwc") := by
    rw [hsplit]
    simp only [String.append_assoc]
  have hplain' : IsPlain before := hplain.of_prefix ⟨'?' :: ds, by rw [hbefore, hlocation]⟩
  rw [DatabaseUrl.ofLocation_plain hplain, hurl] at hread
  obtain ⟨-, hdecodes⟩ := h.file hplain' (hbefore.symm ▸ hcs) hread hplace
  have hle := hdecodes.length_le
  rw [Text.toList_encode, Text.toList_encode, hbefore, hlocation] at hle
  simp [List.length_flatMap] at hle
  have hpos := Char.utf8Size_pos '?'
  omega

/-- A plain path without parameters is read as the name that it decodes to. -/
theorem read_decoded (h : driver.ReadsUrls) (hplain : IsPlain location)
    (hmemory : location ≠ ":memory:") (hquery : '?' ∉ location.toList) {name : String}
    (hname : Decodes location name) : driver.read (DatabaseUrl.ofLocation location) =
      .ok { place := .file name, createIfMissing := true } := by
  rw [DatabaseUrl.ofLocation_plain hplain]
  exact h.create hplain hquery hmemory hname

/-- A plain path is read back just if the URL does not take any of it for its own. -/
theorem names_itself_iff (h : driver.ReadsUrls) (hplain : IsPlain location) :
    (∃ url, driver.read (DatabaseUrl.ofLocation location) = .ok url ∧ url.place = .file location) ↔
      SurvivesUrl location := by
  constructor
  · rintro ⟨url, hread, hplace⟩
    have hquery := h.not_mem_of_names_itself hplain hread hplace
    rw [DatabaseUrl.ofLocation_plain hplain, DatabaseUrl.append_rwc] at hread
    obtain ⟨hmemory, hdecodes⟩ := h.file hplain hquery hread hplace
    exact ⟨hmemory, hquery, (Text.percentDecode_encode_eq_iff location).mp hdecodes⟩
  · intro hs
    exact ⟨_, h.read_decoded hplain hs.notMemory hs.noParameters hs.decodes, rfl⟩

end DatabaseDriver.ReadsUrls

/-! ## The driver of the programs -/

namespace Sqlite

variable {before behind name : String} {url : DatabaseUrl}

theorem dropRepeated_of_not_prefix {start cs : List Char} (h : ¬ start <+: cs) (fuel : Nat) :
    dropRepeated start fuel cs = cs := by
  cases fuel with
  | zero => rfl
  | succ fuel => rw [dropRepeated, if_neg (mt List.isPrefixOf_iff_prefix.mp h)]

theorem dropRepeated_once {start cs : List Char} (h : ¬ start <+: cs) {fuel : Nat}
    (hfuel : fuel ≠ 0) : dropRepeated start fuel (start ++ cs) = cs := by
  obtain ⟨fuel, rfl⟩ := Nat.exists_eq_succ_of_ne_zero hfuel
  rw [dropRepeated, if_pos (List.isPrefixOf_iff_prefix.mpr (List.prefix_append _ _)),
    List.drop_left, dropRepeated_of_not_prefix h]

theorem withoutScheme_eq (h : IsPlain before) :
    withoutScheme ("sqlite://" ++ before ++ "?" ++ behind) =
      before.toList ++ '?' :: behind.toList := by
  have hrest := h.not_prefix behind.toList
  have hslashes : ¬ "sqlite://".toList <+: before.toList ++ '?' :: behind.toList := by
    intro hp
    exact hrest (List.IsPrefix.trans (by decide) hp)
  have hurl : ("sqlite://" ++ before ++ "?" ++ behind).toList =
      "sqlite://".toList ++ (before.toList ++ '?' :: behind.toList) := by
    simp [String.toList_append]
  rw [withoutScheme, hurl, dropRepeated_once hslashes (by simp), dropRepeated_of_not_prefix hrest]

theorem all_ne_query {cs : List Char} (h : '?' ∉ cs) : ∀ c ∈ cs, (c != '?') = true := by
  intro c hc
  simp only [bne_iff_ne, ne_eq]
  rintro rfl
  exact h hc

/-- A URL of a file is split at its first `?`. -/
theorem readUrl_eq (h : IsPlain before) (hquery : '?' ∉ before.toList) :
    readUrl ("sqlite://" ++ before ++ "?" ++ behind) = (readPlace before.toList).bind fun place =>
      (Text.readParameters behind).foldlM applyParameter { place } := by
  have htake : (before.toList ++ '?' :: behind.toList).takeWhile (· != '?') = before.toList := by
    rw [List.takeWhile_append_of_pos (all_ne_query hquery)]
    simp
  have hdrop : ((before.toList ++ '?' :: behind.toList).dropWhile (· != '?')).drop 1 =
      behind.toList := by
    rw [List.dropWhile_append_of_pos (all_ne_query hquery)]
    simp
  rw [readUrl, withoutScheme_eq h, htake, hdrop, String.ofList_toList]
  rfl

/-- A parameter leaves the place as it is, or puts it into memory. -/
theorem place_applyParameter {u : DatabaseUrl} {parameter : String × String}
    (h : applyParameter u parameter = .ok url) : url.place = u.place ∨ url.place = .memory := by
  unfold applyParameter at h
  split at h
  grind

theorem place_foldlM {u : DatabaseUrl} {parameters : List (String × String)}
    (h : parameters.foldlM applyParameter u = .ok url) :
    url.place = u.place ∨ url.place = .memory := by
  induction parameters generalizing u with
  | nil =>
    cases h
    exact Or.inl rfl
  | cons parameter parameters ih =>
    rw [List.foldlM_cons] at h
    cases hu : applyParameter u parameter with
    | error e =>
      rw [hu] at h
      cases h
    | ok v =>
      rw [hu] at h
      rcases ih h with hv | hmemory
      · rw [hv]
        exact place_applyParameter hu
      · exact Or.inr hmemory

/-- The part of a URL before its parameters names a file by what it decodes to. -/
theorem readPlace_eq_file_iff : readPlace before.toList = .ok (.file name) ↔
    before ≠ ":memory:" ∧ Decodes before name := by
  rw [readPlace, Decodes, ← Text.mk_toArray_eq_iff, ← Text.decode?_eq_some_iff, String.ofList_toList]
  by_cases hmemory : before = ":memory:"
  · rw [if_pos (congrArg String.toList hmemory)]
    simp [hmemory]
  · rw [if_neg (mt String.toList_inj.mp hmemory)]
    dsimp only
    rw [and_iff_right hmemory]
    split
    · rename_i name' hname
      simp [hname]
    · rename_i hnone
      simp [hnone]

theorem readParameters_rwc : Text.readParameters "mode=rwc" = [("mode", "rwc")] := by
  show [(Text.readParameterText "mode".toList, Text.readParameterText "rwc".toList)] = _
  rw [Text.readParameterText_eq (by decide) (Text.not_hasEscape_of_not_mem (by decide)),
    Text.readParameterText_eq (by decide) (Text.not_hasEscape_of_not_mem (by decide))]
  rfl

/-- The driver of the programs reads URLs as is relied on. -/
theorem driver_readsUrls : driver.ReadsUrls where
  file := by
    intro before behind name url hplain hquery hread hfile
    have hread : readUrl ("sqlite://" ++ before ++ "?" ++ behind) = .ok url := hread
    rw [readUrl_eq hplain hquery] at hread
    cases hplace : readPlace before.toList with
    | error e =>
      rw [hplace] at hread
      cases hread
    | ok place =>
      rw [hplace, Except.bind] at hread
      rcases place_foldlM hread with hp | hp
      · have hp : url.place = place := hp
        rw [← hp, hfile] at hplace
        exact readPlace_eq_file_iff.mp hplace
      · rw [hp] at hfile
        cases hfile
  create := by
    intro before name hplain hquery hmemory hname
    show readUrl _ = _
    rw [DatabaseUrl.append_rwc, readUrl_eq hplain hquery, readPlace_eq_file_iff.mpr ⟨hmemory, hname⟩,
      readParameters_rwc]
    rfl

theorem readName_of_not_prefix (h : ¬ "file:".toList <+: name.toList) : readName name = .ok name := by
  have hfalse : ¬ ("file:".isPrefixOf name = true) := by
    intro htrue
    exact h (String.startsWith_string_iff.mp htrue)
  rw [readName, if_neg hfalse]

end Sqlite

/-! ## The file of a path -/

namespace KeptStore

variable {driver : DatabaseDriver} {location : String}

/-- The store over a table of the database that was opened for a number of connections. -/
def ofOpened (table : String) (connections : UInt32)
    (opened : Except StoreError (OpenDatabase × Option Place) × Files) :
    Except StoreError KeptStore × Files :=
  (opened.1.bind fun (database, place) =>
    (TableName.ofText table).map fun name => ⟨⟨name, database⟩, place, connections⟩, opened.2)

/-- A plain path without parameters opens the file of the name that it decodes to. -/
theorem connect_decoded (h : driver.ReadsUrls) (hplain : IsPlain location)
    (hmemory : location ≠ ":memory:") (hquery : '?' ∉ location.toList) {name : String}
    (hname : Decodes location name) (files : Files) (table : String) (connections : UInt32) :
    connect driver files location table connections =
      ofOpened table (max connections 1)
        (driver.openPool { place := .file name, createIfMissing := true } (max connections 1)
          files) := by
  rw [connect, h.read_decoded hplain hmemory hquery hname]
  rfl

theorem ofOpened_ok (table : TableName) (connections : UInt32) (database : OpenDatabase)
    (place : Option Place) (files : Files) :
    ofOpened table.text connections (.ok (database, place), files) =
      (.ok ⟨⟨table, database⟩, place, connections⟩, files) := by
  have htable : TableName.ofText table.text = .ok table := dif_pos table.valid
  simp only [ofOpened, htable]
  rfl

/-- **A plain path opens its file just if it survives the URL.**  What the driver reads back from the
URL of a plain path is the path itself, unless it is the name of the database in memory, has a `?`, or
has an escape.  A path that is neither that name nor has a `?` opens the file of the name that it decodes
to, for reading and writing, creating it if it is absent; so one that is read back opens the file where
it leads, as far as the driver opens files where their names lead. -/
theorem plain_path_opens_its_file_iff (hdriver : driver.ReadsUrls) (hplain : IsPlain location) :
    ((∃ url, driver.read (DatabaseUrl.ofLocation location) = .ok url ∧
        url.place = .file location) ↔ SurvivesUrl location) ∧
    (∀ (name : String) (files : Files) (table : String) (connections : UInt32),
      location ≠ ":memory:" → '?' ∉ location.toList → Decodes location name →
      connect driver files location table connections = ofOpened table (max connections 1)
        (driver.openPool { place := .file name, createIfMissing := true } (max connections 1)
          files)) ∧
    (SurvivesUrl location → ∀ (files : Files) (table : TableName) (connections : UInt32)
      (place : Place) (entry : Option Entry) (database : Database) (files' : Files),
      driver.OpensFile files location → files.find true location = .ok (place, entry) →
      OpensAt files place entry database files' →
      connect driver files location table.text connections =
        (.ok ⟨⟨table, { database }⟩, some place, max connections 1⟩, files')) := by
  refine ⟨hdriver.names_itself_iff hplain, ?_, ?_⟩
  · intro name files table connections hmemory hquery hname
    exact connect_decoded hdriver hplain hmemory hquery hname files table connections
  · intro h files table connections place entry database files' hopens hfind hat
    rw [connect_decoded hdriver hplain h.notMemory h.noParameters h.decodes,
      hopens _ place entry database files' hfind hat, ofOpened_ok]

/-! ### Two paths to one file -/

theorem find_s_empty : (⟨∅⟩ : Files).find true "s" = .ok (["s"], none) := by
  unfold Files.find
  rw [if_neg (by decide), if_neg (by decide), Files.names_s]
  rfl

theorem not_endsWith_s : ¬ "s".endsWith "/" := by
  show ¬ "s".toSlice.endsWith "/" = true
  rw [String.Slice.endsWith_string_iff, String.copy_toSlice]
  decide

/-- The driver of the programs creates a file in an empty folder. -/
theorem opensFile_s : Sqlite.driver.OpensFile ⟨∅⟩ "s" := by
  intro connections place entry database files' hfind hat
  rw [find_s_empty] at hfind
  cases hfind
  cases hat
  have hzero : ¬ ("s".contains '\x00' = true) := by simp
  have hshort : Sqlite.isTooLong ["s"] = false := by decide
  have hname : Sqlite.readName "s" = .ok "s" := Sqlite.readName_of_not_prefix (by decide)
  show Sqlite.openNamed ⟨∅⟩ { place := .file "s", createIfMissing := true } "s" = _
  rw [Sqlite.openNamed, if_neg hzero, hname]
  show Sqlite.openFile _ _ _ = _
  rw [Sqlite.openFile, if_neg (by decide), find_s_empty]
  simp [hshort, not_endsWith_s]

/-- The name of a table. -/
def fsids : TableName := ⟨"fsids", rfl⟩

theorem isPlain_s : IsPlain "s" := by
  unfold DatabaseUrl.IsPlain
  decide

/-- The file of a path without an escape is created. -/
theorem plain_path_opens_its_file_iff_s :
    connect Sqlite.driver ⟨∅⟩ "s" fsids.text 0 =
      (.ok ⟨⟨fsids, { database := .empty }⟩, some ["s"], 1⟩,
        Files.put ⟨∅⟩ ["s"] (.database .empty)) := by
  have hsurvives : SurvivesUrl "s" :=
    ⟨by decide, by decide, Text.not_hasEscape_of_not_mem (by decide)⟩
  exact (plain_path_opens_its_file_iff Sqlite.driver_readsUrls isPlain_s).2.2 hsurvives ⟨∅⟩ fsids 0
    ["s"] none .empty _ opensFile_s find_s_empty .created

/-- Whatever the driver, a path with an escape is taken for the path that it decodes to, and so is not
read back; with the driver of the programs, the file of that other path is created. -/
theorem escaped_path_opens_another_file :
    (∀ driver : DatabaseDriver, driver.ReadsUrls →
      driver.read (DatabaseUrl.ofLocation "%73") =
        .ok { place := .file "s", createIfMissing := true } ∧
      ¬ ∀ location, IsPlain location → ∃ url,
        driver.read (DatabaseUrl.ofLocation location) = .ok url ∧ url.place = .file location) ∧
    connect Sqlite.driver ⟨∅⟩ "%73" fsids.text 1 =
      (.ok ⟨⟨fsids, { database := .empty }⟩, some ["s"], 1⟩,
        Files.put ⟨∅⟩ ["s"] (.database .empty)) := by
  have hplain : IsPlain "%73" := by
    unfold DatabaseUrl.IsPlain
    decide
  have hname : Decodes "%73" "s" := by
    rw [Decodes, Text.toList_encode, Text.toList_encode]
    decide
  refine ⟨?_, ?_⟩
  · intro driver hdriver
    refine ⟨hdriver.read_decoded hplain (by decide) (by decide) hname, ?_⟩
    intro hall
    have hsurvives := (hdriver.names_itself_iff hplain).mp (hall _ hplain)
    exact hsurvives.noEscape ⟨[], '7', '3', [], by decide, Or.inl (by decide), Or.inl (by decide)⟩
  · rw [connect_decoded Sqlite.driver_readsUrls hplain (by decide) (by decide) hname,
      opensFile_s _ ["s"] none .empty _ find_s_empty .created, ofOpened_ok]
    rfl

end KeptStore

end FsidRegistry

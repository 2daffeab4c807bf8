import FsidRegistry.Config.Resolve
import Mathlib.Data.List.Forall2

/-!
# What the layers of a configuration come to

A configuration is the one of its file, overridden by the environment, overridden by the command
line.  `Setting` has one constructor for each setting and says of which type it is, so that "the
topmost layer that specifies it" is one relation for all of them (`IsTopmost`).  What the environment
specifies is told by `Gives`, with the two lists of words for truth values (`Spells`) and without the
reader of the daemon.

* `readWord?_eq_some_iff`: the reader takes the words for a truth value in any letter case, and
  nothing else.
* `ofEnvironment?_eq_some_iff`, `value_withEnvironment`, `value_withArguments`: each layer overrides
  what it specifies, and only that.
* `complaints_eq`: the environment is blamed for each malformed truth value.
* `problems_eq`: a configuration is blamed for each requirement that it violates.
* `layers_settle_config`: when the layers make a configuration, which one, and what is said when they
  do not.
-/

namespace FsidRegistry.Config

variable {α : Type} {c d : Config} {env : Environment} {a : DaemonArguments}

/-! ## Settings -/

/-- The settings, by the type of their values. -/
inductive Setting : Type → Type
  | socket : Setting String
  | debug : Setting Bool
  | cache : Setting Bool
  | memory : Setting Bool
  | url : Setting String
  | tableName : Setting String
  | createTable : Setting Bool
  | maxConnections : Setting UInt32

/-- The value of a setting. -/
def value (c : Config) {α : Type} : Setting α → α
  | .socket => c.socket
  | .debug => c.debug
  | .cache => c.cache
  | .memory => c.memory
  | .url => c.database.url
  | .tableName => c.database.tableName
  | .createTable => c.database.createTable
  | .maxConnections => c.database.maxConnections

/-- The configuration with some values. -/
def ofValues (v : ∀ {α : Type}, Setting α → α) : Config where
  socket := v .socket
  debug := v .debug
  cache := v .cache
  memory := v .memory
  database :=
    { url := v .url
      tableName := v .tableName
      createTable := v .createTable
      maxConnections := v .maxConnections }

theorem value_ofValues (v : ∀ {α : Type}, Setting α → α) (f : Setting α) :
    (ofValues v).value f = v f := by
  cases f <;> rfl

theorem ext_value (h : ∀ {α : Type} (f : Setting α), c.value f = d.value f) : c = d := by
  show ofValues c.value = ofValues d.value
  simp only [ofValues, h]

/-! ## Words for truth values -/

/-- A character is the small letter of another.  Only the capitals A to Z have one that differs. -/
def IsSmallOf (d c : Char) : Prop :=
  if 'A' ≤ c ∧ c ≤ 'Z' then d.toNat = c.toNat + 32 else d = c

/-- A text in small letters is a word. -/
def IsWrittenAs (text word : String) : Prop :=
  List.Forall₂ (fun c d => IsSmallOf d c) text.toList word.toList

/-- The words for a truth value. -/
def wordsFor : Bool → List String
  | true => ["1", "t", "true", "y", "yes", "on"]
  | false => ["0", "f", "false", "n", "no", "off"]

/-- A text spells a truth value: it is one of its words, in any letter case. -/
def Spells (text : String) (b : Bool) : Prop :=
  ∃ word ∈ wordsFor b, IsWrittenAs text word

theorem toLower_eq_iff {c d : Char} : c.toLower = d ↔ IsSmallOf d c := by
  rw [IsSmallOf]
  split
  case isTrue h =>
    have hcapital : c.val ≥ 'A'.val ∧ c.val ≤ 'Z'.val := h
    have hlow : 65 ≤ c.toNat := hcapital.1
    have hhigh : c.toNat ≤ 90 := hcapital.2
    have hlower : c.toLower.val = c.val + ('a'.val - 'A'.val) :=
      congrArg Char.val (dif_pos hcapital)
    have hsum : (c.val + ('a'.val - 'A'.val)).toNat = c.toNat + 32 := by
      rw [UInt32.toNat_add]
      exact Nat.mod_eq_of_lt (show c.toNat + 32 < 2 ^ 32 by omega)
    rw [← Char.toNat_inj]
    show c.toLower.val.toNat = d.toNat ↔ _
    rw [hlower, hsum, eq_comm]
  case isFalse h =>
    have hcapital : ¬ (c.val ≥ 'A'.val ∧ c.val ≤ 'Z'.val) := h
    have hlower : c.toLower = c := dif_neg hcapital
    rw [hlower, eq_comm]

theorem isWrittenAs_iff {text word : String} : IsWrittenAs text word ↔ text.toLower = word := by
  have hsmall : (fun c d => IsSmallOf d c) = fun c d => Char.toLower c = d := by
    funext c d
    exact propext toLower_eq_iff.symm
  rw [IsWrittenAs, hsmall, ← List.forall₂_map_left_iff, List.forall₂_eq_eq_eq, ← String.toList_map,
    String.toList_inj]
  rfl

theorem spells_iff {text : String} {b : Bool} : Spells text b ↔ text.toLower ∈ wordsFor b := by
  simp only [Spells, isWrittenAs_iff]
  constructor
  · rintro ⟨word, hword, rfl⟩
    exact hword
  · intro h
    exact ⟨_, h, rfl⟩

/-- No word stands for both truth values. -/
theorem Spells.unique {text : String} {b b' : Bool} (h : Spells text b) (h' : Spells text b') :
    b = b' := by
  have hdisjoint : ∀ word ∈ wordsFor true, word ∉ wordsFor false := by decide
  rw [spells_iff] at h h'
  cases b <;> cases b'
  · rfl
  · exact absurd h (hdisjoint _ h')
  · exact absurd h' (hdisjoint _ h)
  · rfl

/-- The daemon reads the words for a truth value in any letter case, and nothing else. -/
theorem readWord?_eq_some_iff {text : String} {b : Bool} :
    readWord? text = some b ↔ Spells text b := by
  show (if (wordsFor true).contains text.toLower then some true
    else if (wordsFor false).contains text.toLower then some false else none) = some b ↔ _
  by_cases htrue : text.toLower ∈ wordsFor true
  · have hspells : Spells text true := spells_iff.mpr htrue
    rw [if_pos (List.contains_iff_mem.mpr htrue), Option.some.injEq]
    exact ⟨fun h => h ▸ hspells, hspells.unique⟩
  rw [if_neg (mt List.contains_iff_mem.mp htrue)]
  by_cases hfalse : text.toLower ∈ wordsFor false
  · have hspells : Spells text false := spells_iff.mpr hfalse
    rw [if_pos (List.contains_iff_mem.mpr hfalse), Option.some.injEq]
    exact ⟨fun h => h ▸ hspells, hspells.unique⟩
  · rw [if_neg (mt List.contains_iff_mem.mp hfalse), spells_iff]
    cases b <;> simp [htrue, hfalse]
instance (text : String) (b : Bool) : Decidable (Spells text b) :=
  decidable_of_iff _ readWord?_eq_some_iff

/-! ## Layers -/

/-- What the command line specifies.  A flag turns its setting on, but the one of the cache turns it
off; no flag can do the opposite. -/
def ofArguments? (a : DaemonArguments) {α : Type} : Setting α → Option α
  | .socket => a.socket
  | .debug => if a.debug then some true else none
  | .cache => if a.noCache then some false else none
  | .memory => if a.memory then some true else none
  | .url => a.databaseUrl
  | .tableName => a.tableName
  | .createTable => if a.createTable then some true else none
  | .maxConnections => none

/-- What the environment specifies, as the daemon reads it. -/
def ofEnvironment? (env : Environment) {α : Type} : Setting α → Option α
  | .socket => lookup? env "FSID_SOCKET"
  | .debug => flag? env "FSID_DEBUG"
  | .cache => flag? env "FSID_CACHE"
  | .memory => none
  | .url => lookup? env "FSID_DATABASE_URL"
  | .tableName => lookup? env "FSID_TABLE_NAME"
  | .createTable => flag? env "FSID_CREATE_TABLE"
  | .maxConnections => none

/-- A variable is set to a text.  An empty one counts as unset. -/
def IsSet (env : Environment) (name text : String) : Prop := env name = some text ∧ text ≠ ""

/-- A variable is set to a word for a truth value. -/
def IsFlag (env : Environment) (name : String) (b : Bool) : Prop :=
  ∃ text, IsSet env name text ∧ Spells text b

/-- The environment specifies a value for a setting.  It has no variable for the memory and for the
number of connections. -/
def Gives (env : Environment) {α : Type} : Setting α → α → Prop
  | .socket, text => IsSet env "FSID_SOCKET" text
  | .debug, b => IsFlag env "FSID_DEBUG" b
  | .cache, b => IsFlag env "FSID_CACHE" b
  | .memory, _ => False
  | .url, text => IsSet env "FSID_DATABASE_URL" text
  | .tableName, text => IsSet env "FSID_TABLE_NAME" text
  | .createTable, b => IsFlag env "FSID_CREATE_TABLE" b
  | .maxConnections, _ => False

/-- A setting has a value in the environment or, where this does not specify any, in the file. -/
def IsBelow (c : Config) (env : Environment) {α : Type} (f : Setting α) (v : α) : Prop :=
  Gives env f v ∨ ((∀ w, ¬ Gives env f w) ∧ v = c.value f)

/-- A setting has a value in the topmost layer that specifies it. -/
def IsTopmost (c : Config) (env : Environment) (a : DaemonArguments) {α : Type} (f : Setting α)
    (v : α) : Prop :=
  ofArguments? a f = some v ∨ (ofArguments? a f = none ∧ IsBelow c env f v)

theorem lookup?_eq_some_iff {name text : String} :
    lookup? env name = some text ↔ IsSet env name text := by
  simp [lookup?, IsSet]

theorem flag?_eq_some_iff {name : String} {b : Bool} :
    flag? env name = some b ↔ IsFlag env name b := by
  simp only [flag?, IsFlag, Option.bind_eq_some_iff, lookup?_eq_some_iff, readWord?_eq_some_iff]

/-- The daemon reads from the environment what this specifies. -/
theorem ofEnvironment?_eq_some_iff {f : Setting α} {v : α} :
    ofEnvironment? env f = some v ↔ Gives env f v := by
  cases f with
  | socket | url | tableName => exact lookup?_eq_some_iff
  | debug | cache | createTable => exact flag?_eq_some_iff
  | memory | maxConnections =>
    constructor
    · intro h
      cases h
    · exact False.elim

theorem isBelow_iff {f : Setting α} {v : α} :
    IsBelow c env f v ↔ v = (ofEnvironment? env f).getD (c.value f) := by
  simp only [IsBelow, ← ofEnvironment?_eq_some_iff]
  cases ofEnvironment? env f with
  | none => simp
  | some w => simp [eq_comm]

/-- The value of a setting in the topmost layer that specifies it. -/
def topmost (c : Config) (env : Environment) (a : DaemonArguments) {α : Type} (f : Setting α) : α :=
  ((ofArguments? a f).or (ofEnvironment? env f)).getD (c.value f)

theorem isTopmost_iff {f : Setting α} {v : α} : IsTopmost c env a f v ↔ v = topmost c env a f := by
  rw [IsTopmost, isBelow_iff, topmost]
  cases ofArguments? a f with
  | none => simp
  | some w => simp [eq_comm]

/-- The configuration that takes each setting from the topmost layer that specifies it. -/
def settled (c : Config) (env : Environment) (a : DaemonArguments) : Config :=
  ofValues (topmost c env a)

/-- The environment overrides what it specifies, whatever is malformed in it. -/
theorem value_withEnvironment (c : Config) (env : Environment) (f : Setting α) :
    (c.withEnvironment env).1.value f = (ofEnvironment? env f).getD (c.value f) := by
  cases f <;> rfl

/-- The command line overrides what it specifies. -/
theorem value_withArguments (c : Config) (a : DaemonArguments) (f : Setting α) :
    (c.withArguments a).value f = (ofArguments? a f).getD (c.value f) := by
  cases f with
  | debug | memory | createTable =>
    simp only [value, withArguments, ofArguments?]
    split <;> simp_all
  | cache =>
    simp only [value, withArguments, ofArguments?]
    split <;> simp_all
  | _ => rfl

theorem settled_eq (c : Config) (env : Environment) (a : DaemonArguments) :
    (c.withEnvironment env).1.withArguments a = settled c env a := by
  refine ext_value ?_
  intro α f
  rw [value_withArguments, value_withEnvironment, settled, value_ofValues, topmost]
  cases ofArguments? a f <;> rfl

/-! ## The environment -/

/-- The variables for truth values, in the order of complaints. -/
def flagNames : List String := ["FSID_CREATE_TABLE", "FSID_DEBUG", "FSID_CACHE"]

/-- A variable for a truth value is set to a text that is no word for one. -/
def Malformed (env : Environment) (name : String) : Prop :=
  ∃ text, IsSet env name text ∧ ∀ b, ¬ Spells text b

theorem readWord?_eq_none_iff {text : String} : readWord? text = none ↔ ∀ b, ¬ Spells text b := by
  simp only [← readWord?_eq_some_iff, Option.eq_none_iff_forall_ne_some, ne_eq]

/-- The complaint about a malformed variable. -/
def flagComplaint (name text : String) : String :=
  "invalid argument " ++ Text.quoted text ++ " for " ++ Text.quoted name

theorem flagProblem?_of_lookup? {name text : String} (h : lookup? env name = some text) :
    flagProblem? env name =
      if (readWord? text).isSome then none else some (flagComplaint name text) := by
  rw [flagProblem?, h]
  rfl

theorem flagProblem?_cases (env : Environment) (name : String) :
    (Malformed env name ∧
        flagProblem? env name = some (flagComplaint name ((env name).getD ""))) ∨
      (¬ Malformed env name ∧ flagProblem? env name = none) := by
  cases hlookup : lookup? env name with
  | none =>
    refine Or.inr ⟨?_, by rw [flagProblem?, hlookup]⟩
    rintro ⟨text, hset, -⟩
    rw [lookup?_eq_some_iff.mpr hset] at hlookup
    cases hlookup
  | some text =>
    have hset : IsSet env name text := lookup?_eq_some_iff.mp hlookup
    rcases Option.eq_none_or_eq_some (readWord? text) with hword | ⟨word, hword⟩
    · refine Or.inl ⟨⟨text, hset, readWord?_eq_none_iff.mp hword⟩, ?_⟩
      rw [flagProblem?_of_lookup? hlookup, hset.1, hword]
      rfl
    · refine Or.inr ⟨?_, ?_⟩
      · rintro ⟨text', hset', hnone⟩
        rw [← Option.some.inj (hset.1.symm.trans hset'.1)] at hnone
        exact hnone word (readWord?_eq_some_iff.mp hword)
      · rw [flagProblem?_of_lookup? hlookup, hword]
        rfl

instance : DecidablePred (Malformed env) := fun name =>
  decidable_of_iff ((flagProblem? env name).isSome = true) (by
    rcases flagProblem?_cases env name with ⟨h, hx⟩ | ⟨h, hx⟩ <;> simp [h, hx])

/-- The environment is blamed for each malformed truth value, in the order of the variables. -/
theorem complaints_eq (c : Config) (env : Environment) :
    (c.withEnvironment env).2 =
      (flagNames.filter (Malformed env ·)).map fun name =>
        flagComplaint name ((env name).getD "") := by
  show flagNames.filterMap (flagProblem? env) = _
  generalize flagNames = names
  induction names with
  | nil => rfl
  | cons name names ih =>
    rw [List.filterMap_cons, List.filter_cons, ih]
    rcases flagProblem?_cases env name with ⟨h, hx⟩ | ⟨h, hx⟩ <;> simp [h, hx]

/-! ## Requirements -/

/-- A letter or an underscore. -/
def IsNameStart (c : Char) : Prop := ('A' ≤ c ∧ c ≤ 'Z') ∨ ('a' ≤ c ∧ c ≤ 'z') ∨ c = '_'

/-- A text that begins with a letter or an underscore, and goes on with letters, digits and
underscores. -/
def IsIdentifier (name : String) : Prop :=
  ∃ c cs, name.toList = c :: cs ∧ IsNameStart c ∧
    ∀ x ∈ cs, IsNameStart x ∨ ('0' ≤ x ∧ x ≤ '9')

theorem isNameChar_iff {c : Char} :
    isNameChar c = true ↔ IsNameStart c ∨ ('0' ≤ c ∧ c ≤ '9') := by
  have hclasses : isNameChar c = ((decide ('A' ≤ c ∧ c ≤ 'Z') ||
      (decide ('a' ≤ c) && decide (c ≤ 'z')) || (decide ('0' ≤ c) && decide (c ≤ '9'))) ||
      c == '_') := rfl
  rw [hclasses]
  simp only [Bool.or_eq_true, Bool.and_eq_true, decide_eq_true_eq, beq_iff_eq, IsNameStart]
  grind

/-- A name does not start with a digit. -/
theorem IsNameStart.not_isDigit {c : Char} (h : IsNameStart c) : c.isDigit = false := by
  rw [← Bool.not_eq_true]
  simp only [Char.isDigit, Bool.and_eq_true, decide_eq_true_eq, ge_iff_le, UInt32.le_iff_toNat_le]
  intro hdigit
  rcases h with ⟨h, -⟩ | ⟨h, -⟩ | rfl
  · rw [Char.le_def, UInt32.le_iff_toNat_le] at h
    have hlt : '9'.val.toNat < 'A'.val.toNat := by decide
    omega
  · rw [Char.le_def, UInt32.le_iff_toNat_le] at h
    have hlt : '9'.val.toNat < 'a'.val.toNat := by decide
    omega
  · exact absurd hdigit (by decide)

theorem isTableName_iff {name : String} : isTableName name = true ↔ IsIdentifier name := by
  unfold isTableName IsIdentifier
  cases hname : name.toList with
  | nil => simp
  | cons c cs =>
    have hstart : (isNameChar c && !c.isDigit) = true ↔ IsNameStart c := by
      rw [Bool.and_eq_true, isNameChar_iff, Bool.not_eq_true']
      constructor
      · rintro ⟨h | hdigit, hnot⟩
        · exact h
        · rw [← Bool.not_eq_true] at hnot
          refine absurd ?_ hnot
          simpa only [Char.isDigit, Bool.and_eq_true, decide_eq_true_eq, Char.le_def] using hdigit
      · intro h
        exact ⟨Or.inl h, h.not_isDigit⟩
    have hrest : cs.all isNameChar = true ↔ ∀ x ∈ cs, IsNameStart x ∨ ('0' ≤ x ∧ x ≤ '9') := by
      simp only [List.all_eq_true, isNameChar_iff]
    dsimp only
    rw [Bool.and_eq_true, hstart, hrest]
    constructor
    · intro h
      exact ⟨c, cs, rfl, h⟩
    · rintro ⟨c', cs', heq, h⟩
      obtain ⟨rfl, rfl⟩ := List.cons.inj heq
      exact h

instance : DecidablePred IsIdentifier := fun _ => decidable_of_iff _ isTableName_iff

/-- What is required of a configuration. -/
inductive Requirement
  | socket
  | url
  | tableName
  | tableForm
  | connections
deriving DecidableEq

namespace Requirement

/-- The requirements, in the order of complaints. -/
def all : List Requirement := [socket, url, tableName, tableForm, connections]

theorem mem_all (r : Requirement) : r ∈ all := by
  cases r <;> decide

/-- A configuration violates a requirement.  Only the first one counts if it uses the memory. -/
def Violated (d : Config) : Requirement → Prop
  | socket => d.socket = ""
  | url => d.memory = false ∧ d.database.url = ""
  | tableName => d.memory = false ∧ d.database.tableName = ""
  | tableForm => d.memory = false ∧ d.database.tableName ≠ "" ∧ ¬ IsIdentifier d.database.tableName
  | connections => d.memory = false ∧ d.database.maxConnections = 0

instance (d : Config) : DecidablePred (Violated d)
  | socket => inferInstanceAs (Decidable (_ = _))
  | url | tableName | tableForm | connections => inferInstanceAs (Decidable (_ ∧ _))

/-- The complaint about a violated requirement. -/
def complaint (d : Config) : Requirement → String
  | socket => "required: \"socket\""
  | url => "required: \"database.url\""
  | tableName => "required: \"database.table-name\""
  | tableForm => "invalid table name " ++ Text.quoted d.database.tableName
  | connections => "database.max-connections must be at least 1"

/-- The complaint about a requirement, if it is violated. -/
def blame (d : Config) (r : Requirement) : List String :=
  if r.Violated d then [r.complaint d] else []

theorem blame_of_not {d : Config} {r : Requirement} (h : ¬ r.Violated d) : blame d r = [] := if_neg h

theorem blame_eq {d : Config} {r : Requirement} {p : Prop} [Decidable p] (h : p ↔ r.Violated d) :
    (if p then [r.complaint d] else []) = blame d r := by
  by_cases hp : p
  · rw [if_pos hp, blame, if_pos (h.mp hp)]
  · rw [if_neg hp, blame_of_not (mt h.mpr hp)]

/-- The complaints about violated requirements are put together from those about each. -/
theorem map_filter_eq (d : Config) (rs : List Requirement) :
    (rs.filter (Violated d ·)).map (complaint d) = rs.flatMap (blame d) := by
  induction rs with
  | nil => rfl
  | cons r rs ih =>
    rw [List.flatMap_cons, List.filter_cons, ← ih, blame]
    by_cases h : r.Violated d
    · rw [if_pos h, if_pos (decide_eq_true h)]
      rfl
    · rw [if_neg h, if_neg (mt of_decide_eq_true h)]
      rfl

end Requirement

/-- A configuration that uses the memory needs no database. -/
theorem blame_eq_nil_of_memory (h : d.memory = true) (r : Requirement) (hr : r ≠ .socket) :
    Requirement.blame d r = [] := by
  refine Requirement.blame_of_not ?_
  cases r with
  | socket => exact absurd rfl hr
  | _ =>
    rintro ⟨hfalse, -⟩
    rw [h] at hfalse
    cases hfalse

/-- A table name is missing or ill-formed, but not both. -/
theorem tableNameProblems_eq (h : d.memory = false) :
    (if d.database.tableName.isEmpty then [required "database.table-name"]
      else if isTableName d.database.tableName then []
      else ["invalid table name " ++ Text.quoted d.database.tableName]) =
      Requirement.blame d .tableName ++ Requirement.blame d .tableForm := by
  by_cases hname : d.database.tableName = ""
  · have hform : ¬ Requirement.Violated d .tableForm := fun h => h.2.1 hname
    rw [if_pos (String.isEmpty_iff.mpr hname), Requirement.blame, if_pos ⟨h, hname⟩,
      Requirement.blame_of_not hform]
    rfl
  · have hmissing : ¬ Requirement.Violated d .tableName := fun h => hname h.2
    rw [if_neg (mt String.isEmpty_iff.mp hname), Requirement.blame_of_not hmissing]
    by_cases htable : isTableName d.database.tableName = true
    · have hform : ¬ Requirement.Violated d .tableForm :=
        fun h => h.2.2 (isTableName_iff.mp htable)
      rw [if_pos htable, Requirement.blame_of_not hform]
      rfl
    · rw [if_neg htable, Requirement.blame, if_pos ⟨h, hname, mt isTableName_iff.mpr htable⟩]
      rfl

theorem databaseProblems_eq (h : d.memory = false) :
    databaseProblems d.database = Requirement.blame d .url ++
      (Requirement.blame d .tableName ++ Requirement.blame d .tableForm) ++
        Requirement.blame d .connections := by
  rw [databaseProblems, tableNameProblems_eq h]
  congr 1
  · congr 1
    exact Requirement.blame_eq (r := .url) (String.isEmpty_iff.trans (and_iff_right h).symm)
  · exact Requirement.blame_eq (r := .connections) (and_iff_right h).symm

/-- A configuration is blamed for each requirement that it violates, in the order of the
requirements. -/
theorem problems_eq (d : Config) :
    d.problems = (Requirement.all.filter (Requirement.Violated d ·)).map (Requirement.complaint d) := by
  rw [Requirement.map_filter_eq]
  show _ = Requirement.blame d .socket ++ (Requirement.blame d .url ++
    (Requirement.blame d .tableName ++ (Requirement.blame d .tableForm ++
      (Requirement.blame d .connections ++ []))))
  rw [problems]
  congr 1
  · exact Requirement.blame_eq (r := .socket) String.isEmpty_iff
  by_cases hmemory : d.memory = true
  · rw [if_pos hmemory, blame_eq_nil_of_memory hmemory .url nofun,
      blame_eq_nil_of_memory hmemory .tableName nofun,
      blame_eq_nil_of_memory hmemory .tableForm nofun,
      blame_eq_nil_of_memory hmemory .connections nofun]
    rfl
  · rw [if_neg hmemory, databaseProblems_eq (eq_false_of_ne_true hmemory)]
    simp only [List.append_assoc, List.append_nil]

/-- What a configuration must be. -/
def Usable (d : Config) : Prop :=
  d.socket ≠ "" ∧ (d.memory = true ∨
    (d.database.url ≠ "" ∧ IsIdentifier d.database.tableName ∧ 1 ≤ d.database.maxConnections))

theorem not_isIdentifier_empty : ¬ IsIdentifier "" := by
  rintro ⟨c, cs, h, -⟩
  cases h

theorem one_le_iff {n : UInt32} : 1 ≤ n ↔ n ≠ 0 := by
  rw [UInt32.le_iff_toNat_le, ne_eq, ← UInt32.toNat_inj]
  have hone : (1 : UInt32).toNat = 1 := rfl
  have hzero : (0 : UInt32).toNat = 0 := rfl
  omega

/-- A configuration is usable just if it violates no requirement. -/
theorem usable_iff {d : Config} : Usable d ↔ ∀ r, ¬ Requirement.Violated d r := by
  constructor
  · rintro ⟨hsocket, hmemory | ⟨hurl, hname, hmax⟩⟩ r hr
    · cases r with
      | socket => exact hsocket hr
      | _ =>
        obtain ⟨hfalse, -⟩ := hr
        rw [hmemory] at hfalse
        cases hfalse
    · cases r with
      | socket => exact hsocket hr
      | url => exact hurl hr.2
      | tableName =>
        rw [hr.2] at hname
        exact not_isIdentifier_empty hname
      | tableForm => exact hr.2.2 hname
      | connections => exact one_le_iff.mp hmax hr.2
  · intro h
    refine ⟨h .socket, ?_⟩
    by_cases hmemory : d.memory = true
    · exact Or.inl hmemory
    · rw [Bool.not_eq_true] at hmemory
      have hname : d.database.tableName ≠ "" := fun hr => h .tableName ⟨hmemory, hr⟩
      refine Or.inr ⟨fun hr => h .url ⟨hmemory, hr⟩, ?_, one_le_iff.mpr fun hr => ?_⟩
      · refine Decidable.byContradiction ?_
        intro hform
        exact h .tableForm ⟨hmemory, hname, hform⟩
      · exact h .connections ⟨hmemory, hr⟩

theorem problems_eq_nil_iff {d : Config} : d.problems = [] ↔ Usable d := by
  rw [usable_iff, problems_eq, List.map_eq_nil_iff, List.filter_eq_nil_iff]
  constructor
  · intro h r hr
    exact h r (Requirement.mem_all r) (decide_eq_true hr)
  · intro h r _ hr
    exact h r (of_decide_eq_true hr)

/-! ## All layers -/

theorem layered_eq (c : Config) (env : Environment) (a : DaemonArguments) :
    c.layered env a =
      (refuse (c.withEnvironment env).2).bind fun _ =>
        (refuse (settled c env a).problems).map fun _ => settled c env a := by
  rw [← settled_eq]
  rfl

theorem refuse_nil : refuse [] = .ok () := rfl

theorem refuse_of_ne_nil {problems : List String} (h : problems ≠ []) :
    refuse problems = .error (.invalidConfig problems) :=
  if_neg (mt List.isEmpty_iff.mp h)

theorem complaints_eq_nil_iff :
    (c.withEnvironment env).2 = [] ↔ ∀ name ∈ flagNames, ¬ Malformed env name := by
  rw [complaints_eq, List.map_eq_nil_iff, List.filter_eq_nil_iff]
  simp only [decide_eq_true_eq]

theorem layered_of_malformed (h : ∃ name ∈ flagNames, Malformed env name) :
    c.layered env a = .error (.invalidConfig (c.withEnvironment env).2) := by
  have hne : (c.withEnvironment env).2 ≠ [] := by
    rw [ne_eq, complaints_eq_nil_iff]
    obtain ⟨name, hname, hmalformed⟩ := h
    intro hnone
    exact hnone name hname hmalformed
  rw [layered_eq, refuse_of_ne_nil hne]
  rfl

theorem layered_of_wellFormed (h : ∀ name ∈ flagNames, ¬ Malformed env name) :
    c.layered env a = (refuse (settled c env a).problems).map fun _ => settled c env a := by
  rw [layered_eq, complaints_eq_nil_iff.mpr h, refuse_nil]
  rfl

theorem eq_settled (h : ∀ {α : Type} (f : Setting α) (v : α), IsTopmost c env a f v ↔ v = d.value f) :
    d = settled c env a := by
  refine ext_value ?_
  intro α f
  rw [settled, value_ofValues, ← isTopmost_iff, h]

/-- The layers make a configuration just if nothing in the environment is malformed and what they
make is usable. -/
theorem layered_eq_ok_iff : c.layered env a = .ok d ↔
    (∀ name ∈ flagNames, ¬ Malformed env name) ∧ Usable (settled c env a) ∧
      d = settled c env a := by
  constructor
  · intro hd
    have h : ∀ name ∈ flagNames, ¬ Malformed env name := by
      intro name hname hmalformed
      rw [layered_of_malformed ⟨name, hname, hmalformed⟩] at hd
      cases hd
    rw [layered_of_wellFormed h] at hd
    by_cases hp : (settled c env a).problems = []
    · rw [hp, refuse_nil] at hd
      rw [← Except.ok.inj hd]
      exact ⟨h, problems_eq_nil_iff.mp hp, rfl⟩
    · rw [refuse_of_ne_nil hp] at hd
      cases hd
  · rintro ⟨h, husable, rfl⟩
    rw [layered_of_wellFormed h, problems_eq_nil_iff.mpr husable, refuse_nil]
    rfl

/-- **The layers of a configuration.**  There is one configuration in which every setting has the
value of the topmost layer that specifies it.  It is what the layers make, just if no truth value of
the environment is malformed and it is usable.  Else a malformed environment is blamed for each
malformed truth value, and an unusable configuration for each requirement that it violates, in a
fixed order.  Even a malformed environment has overridden all that it specifies. -/
theorem layers_settle_config (c : Config) (env : Environment) (a : DaemonArguments) :
    ∃ d : Config, (∀ {α : Type} (f : Setting α) (v : α), IsTopmost c env a f v ↔ v = d.value f) ∧
      (∀ d', c.layered env a = .ok d' ↔
        (∀ name ∈ flagNames, ¬ Malformed env name) ∧ Usable d ∧ d' = d) ∧
      ((∃ name ∈ flagNames, Malformed env name) →
        c.layered env a = .error (.invalidConfig ((flagNames.filter (Malformed env ·)).map
          fun name => flagComplaint name ((env name).getD "")))) ∧
      ((∀ name ∈ flagNames, ¬ Malformed env name) → ¬ Usable d →
        c.layered env a = .error (.invalidConfig
          ((Requirement.all.filter (Requirement.Violated d ·)).map (Requirement.complaint d)))) ∧
      ∀ {α : Type} (f : Setting α) (v : α),
        IsBelow c env f v ↔ v = (c.withEnvironment env).1.value f := by
  refine ⟨settled c env a, ?_, ?_, ?_, ?_, ?_⟩
  · intro α f v
    rw [settled, value_ofValues]
    exact isTopmost_iff
  · intro d
    exact layered_eq_ok_iff
  · intro h
    rw [layered_of_malformed h, complaints_eq]
  · intro h hunusable
    have hne : (settled c env a).problems ≠ [] := mt problems_eq_nil_iff.mp hunusable
    rw [layered_of_wellFormed h, refuse_of_ne_nil hne, ← problems_eq]
    rfl
  · intro α f v
    rw [value_withEnvironment]
    exact isBelow_iff

/-- An environment with two malformed truth values and one in capitals. -/
def brokenEnvironment : Environment
  | "FSID_DEBUG" => some "maybe"
  | "FSID_CREATE_TABLE" => some "x"
  | "FSID_CACHE" => some "OFF"
  | "FSID_SOCKET" => some "/s"
  | _ => none

/-- An environment that turns messages on and the cache off. -/
def wordyEnvironment : Environment
  | "FSID_DEBUG" => some "Yes"
  | "FSID_CACHE" => some "OFF"
  | "FSID_CREATE_TABLE" => some ""
  | _ => none

/-- What is said about the first environment, which has turned the cache off all the same, what is said
about the empty configuration, and what the second environment makes of one that needs no database. -/
theorem layers_settle_config_of_three :
    (({} : Config).layered brokenEnvironment {} = .error (.invalidConfig
      ["invalid argument \"x\" for \"FSID_CREATE_TABLE\"",
        "invalid argument \"maybe\" for \"FSID_DEBUG\""]) ∧
      (({} : Config).withEnvironment brokenEnvironment).1.cache = false) ∧
    ({} : Config).layered (fun _ => none) {} = .error (.invalidConfig
      ["required: \"database.url\"", "required: \"database.table-name\""]) ∧
    ({} : Config).layered wordyEnvironment { memory := true } =
      .ok { memory := true, debug := true, cache := false } := by
  refine ⟨?_, ?_, ?_⟩
  · obtain ⟨-, -, -, hblamed, -, hbelow⟩ := layers_settle_config {} brokenEnvironment {}
    have hbroken : ∃ name ∈ flagNames, Malformed brokenEnvironment name := by decide +kernel
    have hcache : IsFlag brokenEnvironment "FSID_CACHE" false :=
      ⟨"OFF", ⟨rfl, by decide⟩, by decide +kernel⟩
    refine ⟨(hblamed hbroken).trans (congrArg (Except.error ∘ Error.invalidConfig) ?_), ?_⟩
    · decide +kernel
    · exact ((hbelow .cache false).mp (Or.inl hcache)).symm
  · obtain ⟨d, htop, -, -, hblamed, -⟩ := layers_settle_config {} (fun _ => none) {}
    have hnone : ∀ name ∈ flagNames, ¬ Malformed (fun _ => none) name := by decide +kernel
    have hempty : settled {} (fun _ => none) {} = {} := by decide +kernel
    rw [eq_settled htop, hempty] at hblamed
    have hunusable : ¬ Usable {} := by
      rw [← problems_eq_nil_iff]
      decide +kernel
    refine (hblamed hnone hunusable).trans (congrArg (Except.error ∘ Error.invalidConfig) ?_)
    decide +kernel
  · obtain ⟨d, htop, hok, -⟩ := layers_settle_config {} wordyEnvironment { memory := true }
    have hsettled : settled {} wordyEnvironment { memory := true } =
        { memory := true, debug := true, cache := false } := by decide +kernel
    rw [eq_settled htop, hsettled] at hok
    have hnone : ∀ name ∈ flagNames, ¬ Malformed wordyEnvironment name := by decide +kernel
    exact (hok _).mpr ⟨hnone, ⟨by decide, Or.inl rfl⟩, rfl⟩

end FsidRegistry.Config

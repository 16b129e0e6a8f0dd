/-
This file proves that a description is read alike from all the texts that spell
it, and that no text is read that an edit has spoiled.

Each record of a description, the description itself included, may be an object
or an array, with the fields left out that hold their defaults, and the tokens
of the whole may be spelled and spaced as JSON allows. The writer's own text is
one of these spellings. A spelling is spoiled by an edit that leaves one of the
records with a key too many or twice, an item too many, or a process without a
number.
-/

import SixthEdition.Description.Reader
import SixthEdition.Description.Writer
import SixthEdition.Proofs.JsonValues
import SixthEdition.Proofs.RecordForms

namespace SixthEdition.Description

/-! ### The spellings of a description -/

/-- A field that holds a single value. -/
def Field.single (name : String) (value : Json) (Omissible : Prop) : Field where
  name
  SpelledBy json := json = value
  Omissible

/-- A list of values, each of which stands for one of some items in order. -/
inductive SpellsList {Item : Type} (Spells : Item → Json → Prop) (items : List Item) :
    Json → Prop where
  | array {values : List Json} (each : List.Forall₂ Spells items values) :
      SpellsList Spells items (.array values)

def fieldsOfTerminal (terminal : TerminalDescription) : List Field :=
  [.single "flags" (nullable (fun modes => natural modes.toNat) terminal.modes)
      (terminal.modes = none),
    .single "speeds" (natural terminal.speeds.toNat) (terminal.speeds = 0)]

def fieldsOfProcess (process : ProcessDescription) : List Field :=
  [.single "pid" (natural process.id.toNat) False,
    .single "ppid" (natural process.parent.toNat) (process.parent = 0),
    .single "uid" (natural process.user.toNat) (process.user = 0),
    .single "stat" (.string process.status.word) (process.status = .sleep),
    .single "flags" (natural process.flags.toNat) (process.flags = 0),
    .single "pri" (.integer process.priority.toInt) (process.priority = 0),
    .single "nice" (.integer process.nice.toInt) (process.nice = 0),
    .single "tty" (nullable (fun unit => natural unit.toNat) process.terminal)
      (process.terminal = none),
    .single "args" (.array (process.arguments.map .string)) (process.arguments = []),
    .single "mem_size" (natural process.imageSize.toNat) (process.imageSize = 4096),
    .single "wchan" (natural process.waitChannel.toNat) (process.waitChannel = 0)]

def SpellsTerminal (terminal : TerminalDescription) : Json → Prop :=
  SpellsRecord (fieldsOfTerminal terminal)

def SpellsProcess (process : ProcessDescription) : Json → Prop :=
  SpellsRecord (fieldsOfProcess process)

def fieldsOfDescription (description : Description) : List Field :=
  [⟨"terminals", SpellsList SpellsTerminal description.terminals, description.terminals = []⟩,
    ⟨"procs", SpellsList SpellsProcess description.processes, description.processes = []⟩]

/-- The values that stand for a description. -/
def Spells (description : Description) : Json → Prop :=
  SpellsRecord (fieldsOfDescription description)

/-! ### Single values -/

theorem natural?_natural {number limit : Nat} (small : number < limit) :
    natural? limit (natural number) = some number :=
  if_pos ⟨Int.natCast_nonneg number, Int.ofNat_lt.mpr small⟩

theorem byte?_natural (byte : UInt8) : byte? (natural byte.toNat) = some byte := by
  rw [byte?, natural?_natural byte.toNat_lt_size, Option.map_some, UInt8.ofNat_toNat]

theorem word?_natural (word : UInt16) : word? (natural word.toNat) = some word := by
  rw [word?, natural?_natural word.toNat_lt_size, Option.map_some, UInt16.ofNat_toNat]

theorem size?_natural (size : UInt64) : size? (natural size.toNat) = some size := by
  rw [size?, natural?_natural size.toNat_lt_size, Option.map_some, UInt64.ofNat_toNat]

theorem signedByte?_integer (byte : Int8) : signedByte? (.integer byte.toInt) = some byte := by
  rw [signedByte?, if_pos ⟨byte.le_toInt, byte.toInt_lt⟩, Int8.ofInt_toInt]

theorem status?_word (status : ProcessStatus) : status? (.string status.word) = some status := by
  cases status <;> rfl

theorem nullable?_nullable {Item : Type} {read : Json → Option Item} {write : Item → Json}
    (back : ∀ item, read (write item) = some item) (notNull : ∀ item, write item ≠ .null)
    (item : Option Item) : nullable? read (nullable write item) = some item := by
  cases item with
  | none => rfl
  | some item =>
    rw [nullable, nullable?.eq_def]
    split
    · next null => exact absurd null (notNull item)
    · rw [back, Option.map_some]

theorem list?_of_spellsList {Item : Type} {Spells : Item → Json → Prop} {read : Json → Option Item}
    (back : ∀ item value, Spells item value → read value = some item) {items : List Item}
    {json : Json} (spelled : SpellsList Spells items json) : list? read json = some items := by
  obtain ⟨each⟩ := spelled
  show List.mapM read _ = _
  induction each with
  | nil => rfl
  | cons first _ inductionHypothesis =>
    rw [List.mapM_cons, back _ _ first, inductionHypothesis]
    rfl

theorem list?_string (items : List String) :
    list? string? (.array (items.map .string)) = some items := by
  have back : ∀ item value, value = .string item → string? value = some item := by
    rintro item _ rfl
    rfl
  refine list?_of_spellsList back ⟨?_⟩
  rw [List.forall₂_map_right_iff, List.forall₂_same]
  exact fun _ _ => rfl

theorem orDefault_of_filledBy {Item : Type} {read : Json → Option Item} {default item : Item}
    {field : Field} {slot : Option Json} (filled : field.FilledBy slot)
    (whenOmitted : field.Omissible → item = default)
    (whenPresent : ∀ value, field.SpelledBy value → read value = some item) :
    orDefault default read slot = some item := by
  cases filled with
  | omitted omissible => rw [orDefault, whenOmitted omissible]
  | present spelled => exact whenPresent _ spelled

theorem orDefault_of_single {Item : Type} {read : Json → Option Item} {default item : Item}
    {name : String} {value : Json} {slot : Option Json}
    (filled : (Field.single name value (item = default)).FilledBy slot)
    (back : read value = some item) : orDefault default read slot = some item :=
  orDefault_of_filledBy filled id fun _ same => same ▸ back

theorem terminal?_of_spells (terminal : TerminalDescription) (json : Json)
    (spelled : SpellsTerminal terminal json) : terminal? json = some terminal := by
  have distinct : terminalFields.Nodup := by decide
  obtain ⟨slots, found, filled⟩ := slots?_of_spellsRecord spelled distinct
  obtain _ | ⟨modes, _ | ⟨speeds, _ | _⟩⟩ := filled
  have modesRead := orDefault_of_single modes
    (nullable?_nullable word?_natural nofun terminal.modes)
  have speedsRead := orDefault_of_single speeds (word?_natural terminal.speeds)
  rw [terminal?, show slots? terminalFields json = _ from found, Option.bind_eq_bind,
    Option.bind_some]
  simp only [modesRead, speedsRead]
  rfl

theorem process?_of_spells (process : ProcessDescription) (json : Json)
    (spelled : SpellsProcess process json) : process? json = some process := by
  have distinct : processFields.Nodup := by decide
  obtain ⟨slots, found, filled⟩ := slots?_of_spellsRecord spelled distinct
  obtain _ | ⟨id, _ | ⟨parent, _ | ⟨user, _ | ⟨status, _ | ⟨flags, _ | ⟨priority, _ | ⟨nice,
    _ | ⟨terminal, _ | ⟨arguments, _ | ⟨imageSize, _ | ⟨waitChannel,
      _ | _⟩⟩⟩⟩⟩⟩⟩⟩⟩⟩⟩ := filled
  cases id with
  | omitted no => exact no.elim
  | present same =>
    obtain rfl := same
    have parentRead := orDefault_of_single parent (word?_natural process.parent)
    have userRead := orDefault_of_single user (byte?_natural process.user)
    have statusRead := orDefault_of_single status (status?_word process.status)
    have flagsRead := orDefault_of_single flags (byte?_natural process.flags)
    have priorityRead := orDefault_of_single priority (signedByte?_integer process.priority)
    have niceRead := orDefault_of_single nice (signedByte?_integer process.nice)
    have terminalRead := orDefault_of_single terminal
      (nullable?_nullable size?_natural nofun process.terminal)
    have argumentsRead := orDefault_of_single arguments (list?_string process.arguments)
    have imageSizeRead := orDefault_of_single imageSize (size?_natural process.imageSize)
    have waitChannelRead := orDefault_of_single waitChannel (word?_natural process.waitChannel)
    rw [process?, show slots? processFields json = _ from found, Option.bind_eq_bind,
      Option.bind_some]
    simp only [word?_natural, parentRead, userRead, statusRead, flagsRead, priorityRead, niceRead,
      terminalRead, argumentsRead, imageSizeRead, waitChannelRead]
    rfl

theorem ofJson?_of_spells {description : Description} {json : Json}
    (spelled : Spells description json) : ofJson? json = some description := by
  have distinct : descriptionFields.Nodup := by decide
  obtain ⟨slots, found, filled⟩ := slots?_of_spellsRecord spelled distinct
  obtain _ | ⟨terminals, _ | ⟨processes, _ | _⟩⟩ := filled
  have terminalsRead := orDefault_of_filledBy terminals id fun _ =>
    list?_of_spellsList terminal?_of_spells
  have processesRead := orDefault_of_filledBy processes id fun _ =>
    list?_of_spellsList process?_of_spells
  rw [ofJson?, show slots? descriptionFields json = _ from found, Option.bind_eq_bind,
    Option.bind_some]
  simp only [terminalsRead, processesRead]
  rfl

theorem parse?_of_spells {description : Description} {json : Json} {text : String}
    (spelled : Spells description json) (written : Json.Written json.tokens text.toList) :
    parse? text = some description := by
  rw [parse?, Json.parse?_of_written written, Option.bind_some, ofJson?_of_spells spelled]

/-! ### The writer's text -/

theorem spellsRecord_recordJson {fields : List Field} {values : List Json}
    (each : List.Forall₂ Field.SpelledBy fields values) :
    SpellsRecord fields (recordJson (fields.map Field.name) values) := by
  have spelled : Entries fields ((fields.map Field.name).zip values) := by
    induction each with
    | nil => exact .nil
    | cons first _ inductionHypothesis => exact .present first inductionHypothesis
  exact .object spelled (.refl _)

theorem spellsTerminal_terminalJson (terminal : TerminalDescription) :
    SpellsTerminal terminal (terminalJson terminal) :=
  spellsRecord_recordJson (.cons rfl (.cons rfl .nil))

theorem spellsProcess_processJson (process : ProcessDescription) :
    SpellsProcess process (processJson process) :=
  spellsRecord_recordJson (.cons rfl (.cons rfl (.cons rfl (.cons rfl (.cons rfl (.cons rfl
    (.cons rfl (.cons rfl (.cons rfl (.cons rfl (.cons rfl .nil)))))))))))

theorem spellsList_map {Item : Type} {Spells : Item → Json → Prop} {write : Item → Json}
    (each : ∀ item, Spells item (write item)) (items : List Item) :
    SpellsList Spells items (.array (items.map write)) := by
  refine ⟨?_⟩
  rw [List.forall₂_map_right_iff, List.forall₂_same]
  exact fun item _ => each item

theorem spells_toJson (description : Description) : Spells description description.toJson :=
  spellsRecord_recordJson (.cons (spellsList_map spellsTerminal_terminalJson description.terminals)
    (.cons (spellsList_map spellsProcess_processJson description.processes) .nil))

theorem isIntegral_recordJson (names : List String) {values : List Json}
    (each : ∀ value ∈ values, value.IsIntegral) : (recordJson names values).IsIntegral :=
  Json.isIntegral_object fun _ member => each _ (List.of_mem_zip member).2

theorem isIntegral_natural (number : Nat) : (natural number).IsIntegral :=
  Json.isIntegral_integer number

theorem isIntegral_nullable {Item : Type} {write : Item → Json}
    (each : ∀ item, (write item).IsIntegral) (item : Option Item) :
    (nullable write item).IsIntegral := by
  cases item with
  | none => exact (by decide : Json.null.IsIntegral)
  | some item => exact each item

theorem isIntegral_terminalJson (terminal : TerminalDescription) :
    (terminalJson terminal).IsIntegral := by
  refine isIntegral_recordJson terminalFields (List.forall_mem_cons.mpr ⟨?_, ?_⟩)
  · exact isIntegral_nullable (fun _ => isIntegral_natural _) terminal.modes
  · exact List.forall_mem_singleton.mpr (isIntegral_natural _)

theorem isIntegral_processJson (process : ProcessDescription) :
    (processJson process).IsIntegral := by
  have terminal := isIntegral_nullable (fun unit : UInt64 => isIntegral_natural unit.toNat)
    process.terminal
  have arguments : (Json.array (process.arguments.map .string)).IsIntegral :=
    Json.isIntegral_array
      (List.forall_mem_map.mpr fun argument _ => Json.isIntegral_string argument)
  refine isIntegral_recordJson processFields ?_
  simp only [List.forall_mem_cons]
  exact ⟨isIntegral_natural _, isIntegral_natural _, isIntegral_natural _,
    Json.isIntegral_string _, isIntegral_natural _, Json.isIntegral_integer _,
    Json.isIntegral_integer _, terminal, arguments, isIntegral_natural _, isIntegral_natural _,
    List.forall_mem_nil _⟩

theorem isIntegral_toJson (description : Description) : description.toJson.IsIntegral := by
  have terminals := Json.isIntegral_array (List.forall_mem_map.mpr
    fun terminal (_ : terminal ∈ description.terminals) => isIntegral_terminalJson terminal)
  have processes := Json.isIntegral_array (List.forall_mem_map.mpr
    fun process (_ : process ∈ description.processes) => isIntegral_processJson process)
  exact isIntegral_recordJson descriptionFields
    (List.forall_mem_cons.mpr ⟨terminals, List.forall_mem_singleton.mpr processes⟩)

/-- A description is read back from the text that it is written as. -/
theorem description_survives_rendering (description : Description) :
    parse? description.render = some description :=
  parse?_of_spells (spells_toJson description) (Json.written_render (isIntegral_toJson description))

/-! ### Spoiled descriptions -/

/-- A process loses its number: the entry under its key, or the first item. -/
inductive DropsId : Json → Json → Prop where
  | object (fields : List (String × Json)) :
      DropsId (.object fields) (.object (fields.filter (·.1 ≠ "pid")))
  | array (id : Json) (items : List Json) : DropsId (.array (id :: items)) (.array items)

/-- An array of one or two items, which may be a number and a parent. -/
def IsShort (json : Json) : Prop :=
  ∃ items, json = .array items ∧ (items.length = 1 ∨ items.length = 2)

/-- Edits of a process that leave no process. -/
inductive SpoilsProcess (process spoiled : Json) : Prop where
  | record (spoils : SpoilsRecord processFields process spoiled)
  | id (drops : DropsId process spoiled) (notShort : ¬ IsShort spoiled)

/-- Edits of a description that leave no description. -/
inductive Spoils (description spoiled : Json) : Prop where
  | record (spoils : SpoilsRecord descriptionFields description spoiled)
  | terminal (spoils : EditsField descriptionFields "terminals"
      (EditsItem (SpoilsRecord terminalFields)) description spoiled)
  | process (spoils : EditsField descriptionFields "procs"
      (EditsItem SpoilsProcess) description spoiled)

theorem terminal?_eq_none_of_spoils {terminal spoiled : Json}
    (spoils : SpoilsRecord terminalFields terminal spoiled) : terminal? spoiled = none := by
  rw [terminal?, slots?_eq_none_of_spoils spoils]
  rfl

/-- What is read as a process has a number, and no user or one that can be read. -/
theorem exists_slots_of_process? {json : Json} {process : ProcessDescription}
    (found : process? json = some process) :
    ∃ id parent user others,
      slots? processFields json = some (some id :: parent :: user :: others) ∧
      orDefault 0 byte? user ≠ none := by
  obtain ⟨slots, isSlots, found⟩ := Option.bind_eq_some_iff.mp found
  split at found
  · next id parent user _ _ _ _ _ _ _ _ =>
    obtain ⟨_, -, found⟩ := Option.bind_eq_some_iff.mp found
    obtain ⟨_, -, found⟩ := Option.bind_eq_some_iff.mp found
    obtain ⟨_, isUser, -⟩ := Option.bind_eq_some_iff.mp found
    exact ⟨id, parent, user, _, isSlots, Option.ne_none_iff_exists'.mpr ⟨_, isUser⟩⟩
  · cases found

theorem process?_eq_none_of_dropsId {process : ProcessDescription} {json spoiled : Json}
    (spelled : SpellsProcess process json) (drops : DropsId json spoiled)
    (notShort : ¬ IsShort spoiled) : process? spoiled = none := by
  refine Option.eq_none_iff_forall_ne_some.mpr fun other found => ?_
  obtain ⟨id, parent, user, others, isSlots, isUser⟩ := exists_slots_of_process? found
  cases drops with
  | object fields =>
    obtain ⟨-, -, same⟩ := slots?_object_eq_some_iff.mp isSlots
    have isId : (fields.filter (·.1 ≠ "pid")).lookup "pid" = some id :=
      (List.cons.inj same).1.symm
    have := (List.mem_filter.mp (mem_of_lookup isId)).2
    cases this
  | array first items =>
    obtain ⟨-, same⟩ := slots?_array_eq_some_iff.mp isSlots
    match items with
    | [] => cases same
    | [parent] => exact notShort ⟨_, rfl, .inl rfl⟩
    | [parent, user] => exact notShort ⟨_, rfl, .inr rfl⟩
    | _ :: _ :: third :: rest =>
      -- The word for the state has moved up to the place of the user, which is a number.
      obtain ⟨items⟩ | ⟨items⟩ := spelled
      have isStatus : third = .string process.status.word :=
        items.getElem? (show (fieldsOfProcess process)[3]? = some _ from rfl) rfl
      have isThird : user = some third := by
        simp only [List.map_cons, List.cons_append, List.cons.injEq] at same
        exact same.2.2.1
      rw [isThird, isStatus] at isUser
      exact isUser rfl

theorem process?_eq_none_of_spoils {process : ProcessDescription} {json spoiled : Json}
    (spelled : SpellsProcess process json) (spoils : SpoilsProcess json spoiled) :
    process? spoiled = none := by
  cases spoils with
  | record spoils =>
    rw [process?, slots?_eq_none_of_spoils spoils]
    rfl
  | id drops notShort => exact process?_eq_none_of_dropsId spelled drops notShort

/-- One item that cannot be read makes a list that cannot be read. -/
theorem list?_eq_none {Item : Type} {read : Json → Option Item} {value : Json}
    (refused : read value = none) (before after : List Json) :
    list? read (.array (before ++ value :: after)) = none := by
  show List.mapM read _ = none
  induction before with
  | nil =>
    rw [List.nil_append, List.mapM_cons, refused]
    rfl
  | cons first before inductionHypothesis =>
    rw [List.cons_append, List.mapM_cons, inductionHypothesis]
    cases read first <;> rfl

theorem exists_slots_of_ofJson? {json : Json} {description : Description}
    (found : ofJson? json = some description) :
    ∃ terminals processes, slots? descriptionFields json = some [terminals, processes] ∧
      orDefault [] (list? terminal?) terminals ≠ none ∧
      orDefault [] (list? process?) processes ≠ none := by
  obtain ⟨slots, isSlots, found⟩ := Option.bind_eq_some_iff.mp found
  split at found
  · next terminals processes =>
    obtain ⟨_, areTerminals, found⟩ := Option.bind_eq_some_iff.mp found
    obtain ⟨_, areProcesses, -⟩ := Option.bind_eq_some_iff.mp found
    exact ⟨terminals, processes, isSlots, Option.ne_none_iff_exists'.mpr ⟨_, areTerminals⟩,
      Option.ne_none_iff_exists'.mpr ⟨_, areProcesses⟩⟩
  · cases found

theorem ofJson?_eq_none_of_hasField {name : String} {value json : Json}
    (hasField : HasField descriptionFields name value json)
    (noTerminals : name = "terminals" → list? terminal? value = none)
    (noProcesses : name = "procs" → list? process? value = none) : ofJson? json = none := by
  refine Option.eq_none_iff_forall_ne_some.mpr fun description found => ?_
  obtain ⟨terminals, processes, isSlots, areTerminals, areProcesses⟩ :=
    exists_slots_of_ofJson? found
  obtain ⟨place, isName, isValue⟩ := hasField.getElem?_slots isSlots
  match place with
  | 0 =>
    obtain rfl := Option.some.inj isValue
    exact areTerminals (noTerminals (Option.some.inj isName).symm)
  | 1 =>
    obtain rfl := Option.some.inj isValue
    exact areProcesses (noProcesses (Option.some.inj isName).symm)

/-- In the field for processes of a spelled description stands a list of spelled processes. -/
theorem spellsList_of_hasField {description : Description} {json processes : Json}
    (spelled : Spells description json)
    (hasField : HasField descriptionFields "procs" processes json) :
    SpellsList SpellsProcess description.processes processes := by
  obtain ⟨field, isField, isName, spelledBy⟩ := SpellsRecord.exists_field spelled hasField
  rcases List.mem_pair.mp isField with rfl | rfl
  · exact absurd (show "terminals" = "procs" from isName) (by decide)
  · exact spelledBy

theorem ofJson?_eq_none_of_spoils {description : Description} {json spoiled : Json}
    (spelled : Spells description json) (spoils : Spoils json spoiled) :
    ofJson? spoiled = none := by
  cases spoils with
  | record spoils =>
    rw [ofJson?, slots?_eq_none_of_spoils spoils]
    rfl
  | terminal edits =>
    obtain ⟨_, _, ⟨before, after, spoils⟩, -, hasField⟩ := edits.exists_hasField
    refine ofJson?_eq_none_of_hasField hasField (fun _ => ?_) fun other => absurd other (by decide)
    exact list?_eq_none (terminal?_eq_none_of_spoils spoils) before after
  | process edits =>
    obtain ⟨_, _, ⟨before, after, spoils⟩, hadField, hasField⟩ := edits.exists_hasField
    obtain ⟨each⟩ := spellsList_of_hasField spelled hadField
    obtain ⟨process, _, isProcess, -⟩ :=
      List.forall₂_cons_right_iff.mp (List.forall₂_drop_append _ _ _ each)
    refine ofJson?_eq_none_of_hasField hasField (fun other => absurd other (by decide)) fun _ => ?_
    exact list?_eq_none (process?_eq_none_of_spoils isProcess spoils) before after

/-- All texts that spell a description are read as that description, and no text is read that one
of the edits has spoiled. A process that is an array loses its number with its first item, and all
its fields move up by one place. That spoils the text unless one or two items are left. -/
theorem spellings_are_read_alike {description : Description} {json : Json}
    (spelled : Spells description json) :
    (∀ text : String, Json.Written json.tokens text.toList → parse? text = some description) ∧
      ∀ (spoiled : Json) (text : String), Spoils json spoiled →
        Json.Written spoiled.tokens text.toList → parse? text = none := by
  refine ⟨fun text written => parse?_of_spells spelled written, ?_⟩
  intro spoiled text spoils written
  rw [parse?, Json.parse?_of_written written, Option.bind_some,
    ofJson?_eq_none_of_spoils spelled spoils]

/-- An array of an empty list of terminals and a list of one process, which is an object with its
keys out of order. -/
theorem spellings_are_read_alike_in_mixed_forms :
    parse? "[[],\n [\x7b\"nice\":-5,\"pid\":3\x7d]]" =
        some { processes := [{ id := 3, nice := -5 }] } ∧
      parse? "[[],[\x7b\"nice\":-5\x7d]]" = none := by
  have process : SpellsProcess { id := 3, nice := -5 }
      (.object [("nice", .integer (-5)), ("pid", natural 3)]) := by
    refine .object (?_ : Entries _ [("pid", natural 3), ("nice", .integer (-5))]) (.swap ..)
    exact .present rfl (.omitted rfl (.omitted rfl (.omitted rfl (.omitted rfl (.omitted rfl
      (.present rfl (.omitted rfl (.omitted rfl (.omitted rfl (.omitted rfl .nil))))))))))
  have spelled : Spells { processes := [{ id := 3, nice := -5 }] }
      (.array [.array [], .array [.object [("nice", .integer (-5)), ("pid", natural 3)]]]) :=
    .array (.present ⟨.nil⟩ (.present ⟨.cons process .nil⟩ (.omitted (List.forall_mem_nil _))))
  have spoils : Spoils
      (.array [.array [], .array [.object [("nice", .integer (-5)), ("pid", natural 3)]]])
      (.array [.array [], .array [.object [("nice", .integer (-5))]]]) := by
    have notShort : ¬ IsShort (.object [("nice", .integer (-5))]) := by
      rintro ⟨_, isArray, -⟩
      cases isArray
    exact .process (.array [.array []] [] rfl (.array [] [] (.id (.object _) notShort)))
  have front : Json.Written [.openBracket, .openBracket, .closeBracket, .comma] "[[],".toList :=
    Json.written_text (by decide)
  have blanks : Json.Written [] "\n ".toList := .nil (by decide)
  have back : Json.Written
      [.openBracket, .openBrace, .string "nice", .colon, .integer (-5), .comma, .string "pid",
        .colon, .integer 3, .closeBrace, .closeBracket, .closeBracket]
      "[\x7b\"nice\":-5,\"pid\":3\x7d]]".toList := Json.written_text (by decide)
  obtain ⟨read, refused⟩ := spellings_are_read_alike spelled
  exact ⟨read _ (front.append (blanks.append back)),
    refused _ _ spoils (Json.written_render (by decide))⟩

/-- A process of two items, its number and its parent, is still one without the first. -/
theorem process_without_id_read_from_short_array :
    Spells { processes := [{ id := 3, parent := 1 }] }
        (.object [("procs", .array [.array [natural 3, natural 1]])]) ∧
      EditsField descriptionFields "procs" (EditsItem DropsId)
        (.object [("procs", .array [.array [natural 3, natural 1]])])
        (.object [("procs", .array [.array [natural 1]])]) ∧
      Json.Written (Json.object [("procs", .array [.array [natural 1]])]).tokens
        "\x7b\"procs\":[[1]]\x7d".toList ∧
      parse? "\x7b\"procs\":[[1]]\x7d" = some { processes := [{ id := 1 }] } := by
  have spells {process : ProcessDescription} {json : Json} (spelled : SpellsProcess process json) :
      Spells { processes := [process] } (.object [("procs", .array [json])]) :=
    .object (.omitted rfl (.present ⟨.cons spelled .nil⟩ .nil)) (.refl _)
  have before : SpellsProcess { id := 3, parent := 1 } (.array [natural 3, natural 1]) := by
    refine .array (.present rfl (.present rfl (.omitted ?_)))
    simp [Field.single]
  have behind : SpellsProcess { id := 1 } (.array [natural 1]) := by
    refine .array (.present rfl (.omitted ?_))
    simp [Field.single]
  have written : Json.Written (Json.object [("procs", .array [.array [natural 1]])]).tokens
      "\x7b\"procs\":[[1]]\x7d".toList := Json.written_render (by decide)
  exact ⟨spells before, .object [] [] (.array [] [] (.array _ _)), written,
    parse?_of_spells (spells behind) written⟩

end SixthEdition.Description

import Polyview.Proofs.CommandLine.Spelling

/-!
# Command lines in any order

A command and the settings for all commands are written as the settings that they are made of, in
any order and in any spelling. Only the order of platforms tells something, and only the settings
for all commands may stand before the name of the command. All these command lines ask for the same.
-/

namespace Polyview.CommandLine

/-! ## What an invocation is made of -/

/-- A flag that is raised or left out. -/
def flag (key : Key) (isRaised : Bool) : List Setting := if isRaised then [(key, "")] else []

/-- The settings of an option that is given once for each of some values. -/
def given {α : Type} (key : Key) (name : α → String) (values : List α) : List Setting :=
  values.map fun value => (key, name value)

def Command.verb : Command → Verb
  | .new _ _ => .new
  | .render _ _ _ _ _ => .render
  | .build _ => .build
  | .compile _ => .compile

/-- The settings that make up a command. The usual name of an application need not be given. -/
inductive Asks : Command → List Setting → Prop
  | new (name : String) (platforms : List Platform) :
      Asks (.new name platforms) ((.subject, name) :: given .platform Platform.name platforms)
  | render (file : String) (platform : Platform) (asPage escapes : Bool)
      (appName : Option String) :
      Asks (.render file platform asPage escapes (appName.getD defaultAppName))
        ((.subject, file) :: (.platform, platform.name) ::
          (flag .page asPage ++ flag .escape escapes ++ given .appName id appName.toList))
  | build (platform : Option Platform) :
      Asks (.build platform) (given .platform Platform.name platform.toList)
  | compile (platform : Platform) : Asks (.compile platform) [(.platform, platform.name)]

namespace Invocation

/-- The settings of an invocation that may be made for every command. -/
def sharedSettings (invocation : Invocation) : List Setting :=
  given .logLevel LogLevel.name invocation.logLevel.toList ++
    flag .verbose invocation.isVerbose ++ given .manifest id invocation.manifest.toList

/-- The texts that are given by whoever writes the command line. -/
def texts (invocation : Invocation) : List String :=
  (match invocation.command with
    | .new name _ => [name]
    | .render file _ _ _ appName => [file, appName]
    | .build _ | .compile _ => []) ++ invocation.manifest.toList

/-- Settings before and after the name of a command that together make up an invocation: in any
order, but with several platforms in their order, and with settings in front only if they may be
made for every command. -/
structure IsArranged (invocation : Invocation) (own before after : List Setting) : Prop where
  asks : Asks invocation.command own
  inAnyOrder : (before ++ after).Perm (own ++ invocation.sharedSettings)
  platformsInOrder : valuesOf (before ++ after) .platform = valuesOf own .platform
  areShared : ∀ setting ∈ before, setting.1 ∈ sharedKeys

/-- The arguments that an invocation can be written with. -/
inductive IsWrittenAs (invocation : Invocation) : List String → Prop
  | intro {own before after : List Setting} {beforeWords afterWords : List String}
      (arranged : invocation.IsArranged own before after)
      (spelledBefore : SpellsAll before beforeWords)
      (spelledAfter : SpellsAll after afterWords) :
      IsWrittenAs invocation (beforeWords ++ invocation.command.verb.name :: afterWords)

end Invocation

/-! ## Values -/

section Values

variable {key other : Key}

@[simp]
theorem valuesOf_nil : valuesOf [] key = [] :=
  rfl

@[simp]
theorem valuesOf_append (settings more : List Setting) :
    valuesOf (settings ++ more) key = valuesOf settings key ++ valuesOf more key := by
  simp [valuesOf]

@[simp]
theorem valuesOf_cons (value : String) (settings : List Setting) :
    valuesOf ((other, value) :: settings) key =
      if other = key then value :: valuesOf settings key else valuesOf settings key := by
  by_cases same : other = key <;> simp [valuesOf, same]

@[simp]
theorem valuesOf_flag (isRaised : Bool) :
    valuesOf (flag other isRaised) key = if other = key ∧ isRaised then [""] else [] := by
  cases isRaised <;> simp [flag]

@[simp]
theorem valuesOf_given {α : Type} (name : α → String) (values : List α) :
    valuesOf (given other name values) key = if other = key then values.map name else [] := by
  induction values with
  | nil => simp [given]
  | cons value values ih =>
      rw [given, List.map_cons, valuesOf_cons, ← given, ih]
      split <;> rfl

theorem valuesOf_eq_nil {settings : List Setting} :
    valuesOf settings key = [] ↔ ∀ setting ∈ settings, setting.1 ≠ key := by
  simp [valuesOf]

end Values

/-- Apart from the platforms of a new project, nothing is set twice. -/
theorem Asks.length_valuesOf {invocation : Invocation} {own : List Setting}
    (asks : Asks invocation.command own) (key : Key) :
    isRepeatable (some invocation.command.verb) key = true ∨
      (valuesOf (own ++ invocation.sharedSettings) key).length ≤ 1 := by
  obtain ⟨command, logLevel, isVerbose, manifest⟩ := invocation
  cases asks <;> cases key <;>
    simp [Invocation.sharedSettings, isRepeatable, Command.verb]
  -- a flag is raised once, if at all
  all_goals split <;> decide

/-! ## Settings that fit -/

theorem forall_mem_flag {p : Setting → Prop} {key : Key} (holds : p (key, "")) (isRaised : Bool) :
    ∀ setting ∈ flag key isRaised, p setting := by
  cases isRaised <;> simp [flag, holds]

theorem forall_mem_given {α : Type} {p : Setting → Prop} {key : Key} {name : α → String}
    {values : List α} (hold : ∀ value ∈ values, p (key, name value)) :
    ∀ setting ∈ given key name values, p setting := by
  simpa [given] using hold

theorem mem_keysAt_of_shared {key : Key} (isShared : key ∈ sharedKeys) (place : Option Verb) :
    key ∈ keysAt place := by
  match place with
  | none | some .new | some .build | some .compile => exact List.mem_cons_of_mem _ isShared
  | some .render => exact List.mem_append_right _ isShared

theorem isEmpty_of_standsAlone {value : String} (alone : standsAlone value = true) :
    value.isEmpty = false := by
  rw [Bool.eq_false_iff, Ne, String.isEmpty_iff]
  rintro rfl
  cases alone

theorem fits_platform (verb : Verb) (platform : Platform) :
    Fits (some verb) .platform platform.name where
  isKnown := .inl (by cases verb <;> decide)
  isSetting := by decide
  isAccepted := by cases platform <;> rfl
  standsAlone _ := by cases platform <;> rfl
  isBare isFlag := by cases isFlag

theorem fits_logLevel (place : Option Verb) (level : LogLevel) :
    Fits place .logLevel level.name where
  isKnown := .inl (mem_keysAt_of_shared (by decide) place)
  isSetting := by decide
  isAccepted := by cases level <;> rfl
  standsAlone _ := by cases level <;> rfl
  isBare isFlag := by cases isFlag

theorem fits_verbose (place : Option Verb) : Fits place .verbose "" where
  isKnown := .inl (mem_keysAt_of_shared (by decide) place)
  isSetting := by decide
  isAccepted := rfl
  standsAlone takesValue := by cases takesValue
  isBare _ := rfl

theorem fits_manifest (place : Option Verb) {path : String} (alone : standsAlone path = true) :
    Fits place .manifest path where
  isKnown := .inl (mem_keysAt_of_shared (by decide) place)
  isSetting := by decide
  isAccepted := by simp [accepts, isEmpty_of_standsAlone alone]
  standsAlone _ := alone
  isBare isFlag := by cases isFlag

theorem fits_subject {verb : Verb} (takesSubject : hasSubject (some verb) = true) {value : String}
    (alone : standsAlone value = true) : Fits (some verb) .subject value where
  isKnown := .inr ⟨rfl, takesSubject⟩
  isSetting := by decide
  isAccepted := by simp [accepts, isEmpty_of_standsAlone alone]
  standsAlone _ := alone
  isBare isFlag := by cases isFlag

theorem fits_renderFlag {key : Key} (isFlag : key = .page ∨ key = .escape) :
    Fits (some .render) key "" := by
  rcases isFlag with rfl | rfl <;> exact ⟨.inl (by decide), by decide, rfl, by decide, by decide⟩

theorem fits_appName {name : String} (alone : standsAlone name = true) :
    Fits (some .render) .appName name :=
  ⟨.inl (by decide), by decide, rfl, fun _ => alone, nofun⟩

theorem fits_shared (place : Option Verb) {invocation : Invocation}
    (alone : ∀ path ∈ invocation.manifest.toList, standsAlone path = true) :
    ∀ setting ∈ invocation.sharedSettings, Fits place setting.1 setting.2 := by
  unfold Invocation.sharedSettings
  rw [List.forall_mem_append, List.forall_mem_append]
  refine ⟨⟨?_, ?_⟩, ?_⟩
  · exact forall_mem_given fun level _ => fits_logLevel place level
  · exact forall_mem_flag (fits_verbose place) invocation.isVerbose
  · exact forall_mem_given fun path isGiven => fits_manifest place (alone path isGiven)

theorem Asks.fits {invocation : Invocation} {own : List Setting}
    (asks : Asks invocation.command own)
    (alone : ∀ text ∈ invocation.texts, standsAlone text = true) :
    ∀ setting ∈ own, Fits (some invocation.command.verb) setting.1 setting.2 := by
  obtain ⟨command, logLevel, isVerbose, manifest⟩ := invocation
  cases asks with
  | new name platforms =>
      rw [List.forall_mem_cons]
      refine ⟨fits_subject rfl (alone name (by simp [Invocation.texts])), ?_⟩
      exact forall_mem_given fun platform _ => fits_platform .new platform
  | render file platform asPage escapes appName =>
      rw [List.forall_mem_cons, List.forall_mem_cons, List.forall_mem_append,
        List.forall_mem_append]
      refine ⟨fits_subject rfl (alone file (by simp [Invocation.texts])),
        fits_platform .render platform, ⟨?_, ?_⟩, ?_⟩
      · exact forall_mem_flag (fits_renderFlag (.inl rfl)) asPage
      · exact forall_mem_flag (fits_renderFlag (.inr rfl)) escapes
      · refine forall_mem_given fun name isGiven => fits_appName (alone name ?_)
        rw [Option.mem_toList] at isGiven
        simp [Invocation.texts, Option.mem_def.mp isGiven]
  | build platform => exact forall_mem_given fun platform _ => fits_platform .build platform
  | compile platform =>
      rw [List.forall_mem_singleton]
      exact fits_platform .compile platform

/-- What makes up a command is not set before its name. -/
theorem Asks.valuesOf_shared {command : Command} {own : List Setting} (asks : Asks command own)
    {key : Key} (isShared : key ∈ sharedKeys) : valuesOf own key = [] := by
  cases asks <;> cases key <;> simp_all [sharedKeys]

/-! ## Arrangements -/

theorem eq_of_perm_of_length_le_one {α : Type} {list other : List α} (perm : list.Perm other)
    (isShort : other.length ≤ 1) : list = other := by
  match other with
  | [] => exact perm.eq_nil
  | [value] => exact List.perm_singleton.mp perm

/-- Only platforms may be given several times. -/
theorem eq_platform_of_isRepeatable {place : Option Verb} {key : Key}
    (repeatable : isRepeatable place key = true) : key = .platform := by
  simp only [isRepeatable, Bool.and_eq_true, beq_iff_eq] at repeatable
  exact repeatable.2

theorem Invocation.valuesOf_sharedSettings (invocation : Invocation) {key : Key}
    (notShared : key ∉ sharedKeys) : valuesOf invocation.sharedSettings key = [] := by
  cases key <;> simp_all [sharedKeys, Invocation.sharedSettings]

namespace Invocation.IsArranged

variable {invocation : Invocation} {own before after : List Setting}

/-- Each key has the values that it has in the invocation, wherever they are given. -/
theorem valuesOf_eq (arranged : invocation.IsArranged own before after) (key : Key) :
    valuesOf before key ++ valuesOf after key =
      valuesOf own key ++ valuesOf invocation.sharedSettings key := by
  rw [← valuesOf_append, ← valuesOf_append]
  rcases arranged.asks.length_valuesOf key with repeatable | isShort
  · obtain rfl := eq_platform_of_isRepeatable repeatable
    rw [arranged.platformsInOrder, valuesOf_append,
      invocation.valuesOf_sharedSettings (by decide), List.append_nil]
  · have perm := (arranged.inAnyOrder.filter fun setting => setting.1 == key).map Prod.snd
    exact eq_of_perm_of_length_le_one perm isShort

theorem valuesOf_before (arranged : invocation.IsArranged own before after) {key : Key}
    (notShared : key ∉ sharedKeys) : valuesOf before key = [] := by
  rw [valuesOf_eq_nil]
  rintro setting isIn rfl
  exact notShared (arranged.areShared setting isIn)

theorem length_valuesOf (arranged : invocation.IsArranged own before after) (key : Key) :
    isRepeatable (some invocation.command.verb) key = true ∨
      (valuesOf before key).length + (valuesOf after key).length ≤ 1 := by
  rw [← List.length_append, arranged.valuesOf_eq, ← valuesOf_append]
  exact arranged.asks.length_valuesOf key

theorem fits_before (arranged : invocation.IsArranged own before after)
    (alone : ∀ text ∈ invocation.texts, standsAlone text = true) :
    ∀ setting ∈ before, Fits none setting.1 setting.2 := by
  intro setting isIn
  rcases List.mem_append.mp (arranged.inAnyOrder.subset (List.mem_append_left after isIn)) with
    isOwn | isShared
  · have noValue := arranged.asks.valuesOf_shared (arranged.areShared setting isIn)
    exact absurd rfl (valuesOf_eq_nil.mp noValue setting isOwn)
  · exact fits_shared none (fun path isGiven => alone path (List.mem_append_right _ isGiven))
      setting isShared

theorem fits_after (arranged : invocation.IsArranged own before after)
    (alone : ∀ text ∈ invocation.texts, standsAlone text = true) :
    ∀ setting ∈ after, Fits (some invocation.command.verb) setting.1 setting.2 := by
  intro setting isIn
  rcases List.mem_append.mp (arranged.inAnyOrder.subset (List.mem_append_right before isIn)) with
    isOwn | isShared
  · exact arranged.asks.fits alone setting isOwn
  · exact fits_shared _ (fun path isGiven => alone path (List.mem_append_right _ isGiven))
      setting isShared

/-- The settings in front of the command are read from their spellings. -/
theorem adds_before (arranged : invocation.IsArranged own before after)
    (alone : ∀ text ∈ invocation.texts, standsAlone text = true) {words : List String}
    (spelled : SpellsAll before words) : Adds none [] words before := by
  refine spelled.adds (arranged.fits_before alone) fun key => .inr ?_
  rw [List.nil_append]
  rcases arranged.length_valuesOf key with repeatable | isShort
  · obtain rfl := eq_platform_of_isRepeatable repeatable
    rw [arranged.valuesOf_before (by decide)]
    exact Nat.zero_le 1
  · omega

theorem adds_after (arranged : invocation.IsArranged own before after)
    (alone : ∀ text ∈ invocation.texts, standsAlone text = true) {words : List String}
    (spelled : SpellsAll after words) : Adds (some invocation.command.verb) [] words after := by
  refine spelled.adds (arranged.fits_after alone) fun key => ?_
  rw [List.nil_append]
  exact (arranged.length_valuesOf key).imp_right (by omega)

theorem valuesOf_after (arranged : invocation.IsArranged own before after) {key : Key}
    (notShared : key ∉ sharedKeys) : valuesOf after key = valuesOf own key := by
  have same := arranged.valuesOf_eq key
  rwa [arranged.valuesOf_before notShared, invocation.valuesOf_sharedSettings notShared,
    List.nil_append, List.append_nil] at same

/-- What stands behind the name of a command is the command. -/
theorem command_eq (arranged : invocation.IsArranged own before after) :
    (⟨none, after⟩ : Reading).command invocation.command.verb = .ok invocation.command := by
  have values (key : Key) (notShared : key ∉ sharedKeys) :
      (⟨none, after⟩ : Reading).values key = valuesOf own key :=
    arranged.valuesOf_after notShared
  have subject := values .subject (by decide)
  have platform := values .platform (by decide)
  have page := values .page (by decide)
  have escape := values .escape (by decide)
  have appName := values .appName (by decide)
  obtain ⟨command, logLevel, isVerbose, manifest⟩ := invocation
  have asks : Asks command own := arranged.asks
  simp only [Command.verb, Reading.command, Reading.platform?, Reading.has, Reading.value?, subject,
    platform, page, escape, appName]
  cases asks with
  | new name platforms =>
      have named : (platforms.map Platform.name).filterMap Platform.ofName? = platforms := by
        have inverse : Platform.ofName? ∘ Platform.name = some := funext Platform.ofName?_name
        rw [List.filterMap_map, inverse, List.filterMap_some]
      simp only [valuesOf_cons, valuesOf_given, reduceCtorEq, if_true, if_false, List.head?_cons,
        named]
  | render file platform asPage escapes appName =>
      cases asPage <;> cases escapes <;> simp [Platform.ofName?_name]
  | build target => cases target <;> simp [Platform.ofName?_name]
  | compile target => simp [Platform.ofName?_name]

/-- A setting for all commands is found, before or behind the name of the command. -/
theorem orElse_value? (arranged : invocation.IsArranged own before after) {key : Key}
    (isShared : key ∈ sharedKeys) :
    ((⟨none, after⟩ : Reading).value? key <|> (⟨none, before⟩ : Reading).value? key) =
      (valuesOf invocation.sharedSettings key).head? := by
  have whole := arranged.valuesOf_eq key
  rw [arranged.asks.valuesOf_shared isShared, List.nil_append] at whole
  change ((valuesOf after key).head? <|> (valuesOf before key).head?) = _
  rcases arranged.length_valuesOf key with repeatable | isShort
  · exact absurd (eq_platform_of_isRepeatable repeatable ▸ isShared) (by decide)
  · rw [← whole]
    cases isBefore : valuesOf before key with
    | nil => simp
    | cons value more =>
        have noneAfter : valuesOf after key = [] := by
          rw [isBefore, List.length_cons] at isShort
          exact List.eq_nil_of_length_eq_zero (by omega)
        simp [noneAfter]

theorem logLevel_eq (arranged : invocation.IsArranged own before after) :
    ((⟨none, after⟩ : Reading).value? .logLevel <|>
      (⟨none, before⟩ : Reading).value? .logLevel).bind LogLevel.ofName? =
        invocation.logLevel := by
  rw [arranged.orElse_value? (by decide)]
  cases level : invocation.logLevel <;>
    simp [Invocation.sharedSettings, level, LogLevel.ofName?_name]

theorem isVerbose_eq (arranged : invocation.IsArranged own before after) :
    ((⟨none, after⟩ : Reading).has .verbose || (⟨none, before⟩ : Reading).has .verbose) =
      invocation.isVerbose := by
  have found := congrArg Option.isSome (arranged.orElse_value? (show Key.verbose ∈ _ by decide))
  rw [Option.orElse_eq_orElse, Option.orElse_eq_or, Option.isSome_or] at found
  rw [Reading.has, Reading.has, found]
  cases verbose : invocation.isVerbose <;> simp [Invocation.sharedSettings, verbose]

theorem manifest_eq (arranged : invocation.IsArranged own before after) :
    ((⟨none, after⟩ : Reading).value? .manifest <|>
      (⟨none, before⟩ : Reading).value? .manifest) = invocation.manifest := by
  rw [arranged.orElse_value? (by decide)]
  cases path : invocation.manifest <;> simp [Invocation.sharedSettings, path]

end Invocation.IsArranged

/-! ## Command lines -/

theorem exists_asks (command : Command) : ∃ own, Asks command own := by
  cases command with
  | new name platforms => exact ⟨_, .new name platforms⟩
  | render file platform asPage escapes appName =>
      exact ⟨_, .render file platform asPage escapes (some appName)⟩
  | build platform => exact ⟨_, .build platform⟩
  | compile platform => exact ⟨_, .compile platform⟩

theorem Invocation.exists_isWrittenAs {invocation : Invocation}
    (alone : ∀ text ∈ invocation.texts, standsAlone text = true) :
    ∃ arguments, invocation.IsWrittenAs arguments := by
  obtain ⟨own, asks⟩ := exists_asks invocation.command
  have arranged : invocation.IsArranged own [] (own ++ invocation.sharedSettings) :=
    { asks := asks
      inAnyOrder := .refl _
      platformsInOrder := by
        rw [List.nil_append, valuesOf_append, invocation.valuesOf_sharedSettings (by decide),
          List.append_nil]
      areShared := by simp }
  obtain ⟨words, spelled⟩ := exists_spellings (arranged.fits_after alone)
  exact ⟨_, .intro arranged .nil spelled⟩

/-- Every invocation can be written as a command line, and it is read from all command lines that it
can be written as: with its settings in any order and in any spelling, and those for all commands
before or behind the name of the command. -/
theorem command_line_reads_back (invocation : Invocation)
    (alone : ∀ text ∈ invocation.texts, standsAlone text = true) :
    (∃ arguments, invocation.IsWrittenAs arguments) ∧
      ∀ arguments, invocation.IsWrittenAs arguments → read arguments = .ok invocation := by
  refine ⟨Invocation.exists_isWrittenAs alone, ?_⟩
  intro arguments written
  obtain @⟨own, before, after, beforeWords, afterWords, arranged, spelledBefore, spelledAfter⟩ :=
    written
  obtain ⟨front, frontSettles, readsFront⟩ :=
    arranged.adds_before alone spelledBefore .start rfl (invocation.command.verb.name :: afterWords)
  obtain ⟨back, backSettles, readsBack⟩ :=
    arranged.adds_after alone spelledAfter .start rfl []
  have atVerb := readFrom_verb front afterWords invocation.command.verb
    (Reading.awaited?_of_settle frontSettles)
  rw [List.append_nil] at readsBack
  rw [read, readsFront, atVerb, ok_bind]
  simp only [readsBack, readFrom, ok_bind, backSettles, frontSettles, List.nil_append,
    arranged.command_eq, arranged.logLevel_eq, arranged.isVerbose_eq, arranged.manifest_eq]
  rfl

/-- The project is called like a command, and a setting for all commands stands between its
platforms. -/
theorem command_line_reads_back_of_mixed_order :
    let invocation : Invocation := ⟨.new "build" [.linux, .macos], some .info, true, some "a=b"⟩
    let arguments := ["-C", "a=b", "--verbose", "new", "--platform=linux", "-linfo", "build", "-p",
      "macos"]
    "a=b" ∈ invocation.texts ∧ (∀ text ∈ invocation.texts, standsAlone text = true) ∧
      invocation.IsWrittenAs arguments ∧ read arguments = .ok invocation := by
  intro invocation arguments
  have alone : ∀ text ∈ invocation.texts, standsAlone text = true := by decide
  have arranged : invocation.IsArranged
      ((.subject, "build") :: given .platform Platform.name [.linux, .macos])
      [(.manifest, "a=b"), (.verbose, "")]
      [(.platform, "linux"), (.logLevel, "info"), (.subject, "build"), (.platform, "macos")] :=
    { asks := .new "build" [.linux, .macos]
      inAnyOrder := by decide
      platformsInOrder := by decide
      areShared := by decide }
  have verbose : Spells (.verbose, "") ["--verbose"] :=
    .longFlag (show Key.verbose.long? = some "verbose" from rfl) rfl
  have linux : Spells (.platform, "linux") ["--platform=linux"] :=
    .longJoined (show Key.platform.long? = some "platform" from rfl) rfl
  have level : Spells (.logLevel, "info") ["-linfo"] :=
    .shortAttached (show Key.logLevel.short? = some 'l' from rfl) rfl
  have written : invocation.IsWrittenAs arguments :=
    .intro arranged (.cons (.short rfl rfl) (.cons verbose .nil))
      (.cons linux (.cons level (.cons .subject (.cons (.short rfl rfl) .nil))))
  exact ⟨by decide, alone, written, (command_line_reads_back invocation alone).2 _ written⟩

end Polyview.CommandLine

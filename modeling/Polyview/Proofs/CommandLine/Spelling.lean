import Polyview.CommandLine.Reader
import Polyview.Proofs.Result
import Polyview.Proofs.Text.Run

/-!
# Spelled settings

A setting of a command line may be spelled in several ways: with a long or a short name, and with
its value behind the name or in an argument of its own. However the settings at a place are spelled,
they are read one after another, and what has been read when its last value is looked at is the list
of the settings.
-/

namespace Polyview.CommandLine

/-- What is set, and the value that it is set to. -/
abbrev Setting := Key × String

/-- Whether a value can be told from an option, wherever it is written. -/
def standsAlone (value : String) : Bool := value.toList.head?.any fun c => c != '-' && c != '='

theorem standsAlone_iff {value : String} :
    standsAlone value ↔ ∃ c rest, value.toList = c :: rest ∧ c ≠ '-' ∧ c ≠ '=' := by
  unfold standsAlone
  cases value.toList <;> simp

/-- The arguments that a setting can be spelled with. -/
inductive Spells : Setting → List String → Prop
  | subject {value : String} : Spells (.subject, value) [value]
  | long {key : Key} {name value : String} (isLong : key.long? = some name)
      (takesValue : key.takesValue = true) : Spells (key, value) ["--" ++ name, value]
  | longJoined {key : Key} {name value : String} (isLong : key.long? = some name)
      (takesValue : key.takesValue = true) : Spells (key, value) ["--" ++ name ++ "=" ++ value]
  | short {key : Key} {c : Char} {value : String} (isShort : key.short? = some c)
      (takesValue : key.takesValue = true) : Spells (key, value) [String.ofList ['-', c], value]
  | shortAttached {key : Key} {c : Char} {value : String} (isShort : key.short? = some c)
      (takesValue : key.takesValue = true) : Spells (key, value) [String.ofList ['-', c] ++ value]
  | shortJoined {key : Key} {c : Char} {value : String} (isShort : key.short? = some c)
      (takesValue : key.takesValue = true) :
      Spells (key, value) [String.ofList ['-', c] ++ "=" ++ value]
  | longFlag {key : Key} {name : String} (isLong : key.long? = some name)
      (isFlag : key.takesValue = false) : Spells (key, "") ["--" ++ name]
  | shortFlag {key : Key} {c : Char} (isShort : key.short? = some c)
      (isFlag : key.takesValue = false) : Spells (key, "") [String.ofList ['-', c]]

/-- The arguments that settings can be spelled with, in their order. -/
inductive SpellsAll : List Setting → List String → Prop
  | nil : SpellsAll [] []
  | cons {setting : Setting} {settings : List Setting} {words later : List String}
      (spelled : Spells setting words) (laterSpelled : SpellsAll settings later) :
      SpellsAll (setting :: settings) (words ++ later)

/-- The values that a key is set to, in order. -/
def valuesOf (settings : List Setting) (key : Key) : List String :=
  (settings.filter fun setting => setting.1 == key).map Prod.snd

/-- What a setting has to meet to be made at a place. -/
structure Fits (place : Option Verb) (key : Key) (value : String) : Prop where
  isKnown : key ∈ keysAt place ∨ key = .subject ∧ hasSubject place = true
  isSetting : key ≠ .help ∧ key ≠ .version
  isAccepted : accepts place key value = true
  standsAlone : key.takesValue = true → standsAlone value = true
  isBare : key.takesValue = false → value = ""

/-! ## Spellings -/

theorem Fits.exists_spelling {place : Option Verb} {key : Key} {value : String}
    (fits : Fits place key value) : ∃ words, Spells (key, value) words := by
  by_cases isSubject : key = .subject
  · subst isSubject
    exact ⟨[value], .subject⟩
  · obtain ⟨name, isLong⟩ : ∃ name, key.long? = some name := by
      cases key <;> simp [Key.long?] at isSubject ⊢
    cases takesValue : key.takesValue with
    | true => exact ⟨["--" ++ name, value], .long isLong takesValue⟩
    | false =>
        obtain rfl := fits.isBare takesValue
        exact ⟨["--" ++ name], .longFlag isLong takesValue⟩

theorem exists_spellings {place : Option Verb} {settings : List Setting}
    (fits : ∀ setting ∈ settings, Fits place setting.1 setting.2) :
    ∃ words, SpellsAll settings words := by
  induction settings with
  | nil => exact ⟨[], .nil⟩
  | cons setting settings ih =>
      rw [List.forall_mem_cons] at fits
      obtain ⟨words, spelled⟩ := fits.1.exists_spelling
      obtain ⟨later, laterSpelled⟩ := ih fits.2
      exact ⟨words ++ later, .cons spelled laterSpelled⟩

/-! ## Names -/

theorem Key.eq_of_long? {key other : Key} {name : String} (isLong : key.long? = some name)
    (isOtherLong : other.long? = some name) : other = key := by
  cases key <;> cases other <;> grind [Key.long?]

theorem Key.eq_of_short? {key other : Key} {c : Char} (isShort : key.short? = some c)
    (isOtherShort : other.short? = some c) : other = key := by
  cases key <;> cases other <;> grind [Key.short?]

theorem Key.find?_eq_some {keys : List Key} {key : Key} {test : Key → Bool} (isIn : key ∈ keys)
    (passes : test key = true) (isOnly : ∀ other, test other = true → other = key) :
    keys.find? test = some key := by
  have isFound : (keys.find? test).isSome := List.find?_isSome.mpr ⟨key, isIn, passes⟩
  obtain ⟨found, finds⟩ := Option.isSome_iff_exists.mp isFound
  rw [finds, isOnly found (List.find?_some finds)]

theorem find?_long {place : Option Verb} {key : Key} {name : String} (isKnown : key ∈ keysAt place)
    (isLong : key.long? = some name) :
    (keysAt place).find? (fun key => key.long? == some name) = some key :=
  Key.find?_eq_some isKnown (by simp [isLong])
    fun _ isOtherLong => Key.eq_of_long? isLong (by simpa using isOtherLong)

theorem find?_short {place : Option Verb} {key : Key} {c : Char} (isKnown : key ∈ keysAt place)
    (isShort : key.short? = some c) :
    (keysAt place).find? (fun key => key.short? == some c) = some key :=
  Key.find?_eq_some isKnown (by simp [isShort])
    fun _ isOtherShort => Key.eq_of_short? isShort (by simpa using isOtherShort)

theorem Key.equals_notMem_long {key : Key} {name : String} (isLong : key.long? = some name) :
    '=' ∉ name.toList ∧ name.toList ≠ [] := by
  cases key <;> simp only [Key.long?, Option.some.injEq, reduceCtorEq] at isLong <;>
    subst isLong <;> decide

/-- A long name ends where an equals sign stands. -/
theorem longParts_append {name : String} (noEquals : '=' ∉ name.toList) {rest : List Char}
    (stops : Text.Stops (fun c => c != '=') rest) :
    longParts (name.toList ++ rest) = (name, rest.tail?.map String.ofList) := by
  have isName : ∀ c ∈ name.toList, (c != '=') = true := by
    intro c isIn
    rw [bne_iff_ne]
    rintro rfl
    exact noEquals isIn
  rw [longParts, Text.takeWhile_append_of_stops isName stops,
    Text.dropWhile_append_of_stops isName stops, String.ofList_toList]
  cases rest <;> rfl

theorem longParts_name {name : String} (noEquals : '=' ∉ name.toList) :
    longParts name.toList = (name, none) := by
  have parts := longParts_append noEquals (Text.stops_nil _)
  rwa [List.append_nil] at parts

theorem longParts_joined {name : String} (noEquals : '=' ∉ name.toList) (value : String) :
    longParts (name.toList ++ '=' :: value.toList) = (name, some value) := by
  rw [longParts_append noEquals (Text.stops_cons.mpr (by decide)), List.tail?_cons,
    Option.map_some, String.ofList_toList]

theorem Verb.ofName?_of_dash {argument : String} {text : List Char}
    (isOption : argument.toList = '-' :: text) : Verb.ofName? argument = none := by
  rw [Verb.ofName?, List.find?_eq_none]
  rintro verb - isName
  rw [beq_iff_eq] at isName
  subst isName
  cases verb <;> cases isOption

/-! ## Arguments -/

theorem ne_help_of_dash {argument : String} {text : List Char}
    (isOption : argument.toList = '-' :: text) : (argument == "help") = false := by
  rw [beq_eq_false_iff_ne]
  rintro rfl
  cases isOption

section Arguments

variable (place : Option Verb) (reading : Reading) (rest : List String)

theorem readFrom_long {argument : String} {text : List Char}
    (isOption : argument.toList = '-' :: '-' :: text) (notEnd : text ≠ []) :
    readFrom place false reading (argument :: rest) =
      reading.readLong place (longParts text).1 (longParts text).2 >>= fun reading =>
        readFrom place false reading rest := by
  rw [readFrom]
  simp only [ne_help_of_dash isOption, Verb.ofName?_of_dash isOption, isOption, Bool.and_false]
  cases reading.awaited?.isNone && place.isNone <;> rfl

theorem readFrom_short {argument : String} {c : Char} {text : List Char}
    (isOption : argument.toList = '-' :: c :: text) (notDash : c ≠ '-') :
    readFrom place false reading (argument :: rest) =
      reading.readShort place (c :: text) >>= fun reading =>
        readFrom place false reading rest := by
  rw [readFrom]
  simp only [ne_help_of_dash isOption, Verb.ofName?_of_dash isOption, isOption, Bool.and_false]
  cases reading.awaited?.isNone && place.isNone <;> simp [notDash]

variable {rest}

/-- The argument after an option is its value. -/
theorem readFrom_awaited {value : String} {key : Key} (alone : standsAlone value = true)
    (awaits : reading.awaited? = some key) :
    readFrom place false reading (value :: rest) =
      readFrom place false { reading with pending := some (key, some value) } rest := by
  obtain ⟨c, text, isValue, notDash, -⟩ := standsAlone_iff.mp alone
  rw [readFrom]
  simp [awaits, isValue, notDash]

/-- An argument that no option waits for is what the command is about. -/
theorem readFrom_subject {verb : Verb} {value : String} (alone : standsAlone value = true)
    (awaitsNone : reading.awaited? = none) :
    readFrom (some verb) false reading (value :: rest) =
      reading.readSubject (some verb) false value >>= fun reading =>
        readFrom (some verb) false reading rest := by
  obtain ⟨c, text, isValue, notDash, -⟩ := standsAlone_iff.mp alone
  rw [readFrom]
  simp [awaitsNone, isValue, notDash]

variable (rest) in
theorem readFrom_verb (verb : Verb) (awaitsNone : reading.awaited? = none) :
    readFrom none false reading (verb.name :: rest) = .ok (reading, some (verb, rest)) := by
  rw [readFrom]
  cases verb <;> simp [awaitsNone, Verb.name, Verb.ofName?, Verb.all]

end Arguments

/-! ## Options -/

section Options

variable {place : Option Verb} {key : Key}

theorem readLong_name {name : String} (isKnown : key ∈ keysAt place)
    (isLong : key.long? = some name) (reading : Reading) :
    reading.readLong place name none =
      if key.takesValue then reading.await place key else reading.raise place key := by
  rw [Reading.readLong, find?_long isKnown isLong]
  cases takesValue : key.takesValue <;> simp [takesValue]

theorem readLong_joined {name : String} (isKnown : key ∈ keysAt place)
    (isLong : key.long? = some name) (takesValue : key.takesValue = true) (reading : Reading)
    (value : String) :
    reading.readLong place name (some value) = reading.attach place key value := by
  rw [Reading.readLong, find?_long isKnown isLong]
  simp [takesValue]

theorem readShort_name {c : Char} (isKnown : key ∈ keysAt place) (isShort : key.short? = some c)
    (reading : Reading) :
    reading.readShort place [c] =
      if key.takesValue then reading.await place key else reading.raise place key := by
  rw [Reading.readShort, find?_short isKnown isShort]
  cases takesValue : key.takesValue with
  | true => simp [takesValue]
  | false =>
      cases raised : reading.raise place key <;>
        simp [takesValue, raised, Reading.readShort, bind, Except.bind]

theorem readShort_attached {c : Char} (isKnown : key ∈ keysAt place)
    (isShort : key.short? = some c) (takesValue : key.takesValue = true) {value : String}
    (alone : standsAlone value = true) (reading : Reading) :
    reading.readShort place (c :: value.toList) = reading.attach place key value := by
  obtain ⟨first, text, isValue, -, notEquals⟩ := standsAlone_iff.mp alone
  have whole : String.ofList (first :: text) = value := by rw [← isValue, String.ofList_toList]
  rw [Reading.readShort, find?_short isKnown isShort, isValue]
  simp [takesValue, notEquals, whole]

theorem readShort_joined {c : Char} (isKnown : key ∈ keysAt place)
    (isShort : key.short? = some c) (takesValue : key.takesValue = true) (reading : Reading)
    (value : String) :
    reading.readShort place (c :: '=' :: value.toList) = reading.attach place key value := by
  rw [Reading.readShort, find?_short isKnown isShort]
  simp [takesValue]

end Options

/-! ## Readings -/

/-- Whether a key may be set at a place where some settings have been made. -/
def CanFollow (place : Option Verb) (settings : List Setting) (key : Key) : Prop :=
  isRepeatable place key = true ∨ ∀ setting ∈ settings, setting.1 ≠ key

namespace Reading

variable {place : Option Verb} {reading : Reading} {settings : List Setting}

theorem awaited?_of_settle (settles : reading.settle place = .ok ⟨none, settings⟩) :
    reading.awaited? = none := by
  obtain ⟨pending, done⟩ := reading
  match pending with
  | none => rfl
  | some (key, some value) => rfl
  | some (key, none) => cases settles

theorem set_eq_ok {key : Key} {value : String} (isNew : CanFollow place settings key)
    (isAccepted : accepts place key value = true) :
    set ⟨none, settings⟩ place key value = .ok ⟨none, settings ++ [(key, value)]⟩ := by
  have notRepeated :
      (!isRepeatable place key && settings.any fun setting => setting.1 == key) = false := by
    rcases isNew with repeatable | others
    · rw [repeatable, Bool.not_true, Bool.false_and]
    · have notAny : (settings.any fun setting => setting.1 == key) = false := by
        simpa using others
      rw [notAny, Bool.and_false]
  rw [set]
  simp [notRepeated, isAccepted]

theorem eq_of_set_eq_ok {key : Key} {value : String} {next : Reading}
    (isSet : set reading place key value = .ok next) :
    next = { reading with settings := reading.settings ++ [(key, value)] } := by
  unfold set at isSet
  split at isSet
  · cases isSet
  · split at isSet
    · exact (Except.ok.inj isSet).symm
    · cases isSet

theorem hasSubject_of_settle (settles : reading.settle place = .ok ⟨none, settings⟩) :
    reading.hasSubject = settings.any fun setting => setting.1 == .subject := by
  obtain ⟨pending, done⟩ := reading
  match pending with
  | none =>
      cases settles
      rfl
  | some (key, none) => cases settles
  | some (key, some value) =>
      obtain rfl := congrArg Reading.settings (eq_of_set_eq_ok settles)
      simp [hasSubject, Bool.or_comm]

theorem raise_eq {key : Key} (isSetting : key ≠ .help ∧ key ≠ .version) :
    reading.raise place key = reading.attach place key "" := by
  cases key with
  | help => exact absurd rfl isSetting.1
  | version => exact absurd rfl isSetting.2
  | _ => rfl

end Reading

/-! ## Settings -/

/-- Whatever has been read, arguments at a place add some settings to it. -/
def Adds (place : Option Verb) (settings : List Setting) (words : List String)
    (more : List Setting) : Prop :=
  ∀ reading : Reading, reading.settle place = .ok ⟨none, settings⟩ → ∀ rest : List String,
    ∃ next : Reading, next.settle place = .ok ⟨none, settings ++ more⟩ ∧
      readFrom place false reading (words ++ rest) = readFrom place false next rest

section Adds

variable {place : Option Verb} {settings : List Setting} {key : Key} {value : String}

theorem Adds.nil : Adds place settings [] [] := by
  intro reading settles rest
  exact ⟨reading, by simpa using settles, rfl⟩

theorem Adds.append {words moreWords : List String} {added moreAdded : List Setting}
    (adds : Adds place settings words added)
    (addsMore : Adds place (settings ++ added) moreWords moreAdded) :
    Adds place settings (words ++ moreWords) (added ++ moreAdded) := by
  intro reading settles rest
  obtain ⟨next, nextSettles, reads⟩ := adds reading settles (moreWords ++ rest)
  obtain ⟨last, lastSettles, readsMore⟩ := addsMore next nextSettles rest
  refine ⟨last, ?_, ?_⟩
  · rw [← List.append_assoc]
    exact lastSettles
  · rw [List.append_assoc, reads, readsMore]

theorem adds_of_attach {word : String} (isNew : CanFollow place settings key)
    (isAccepted : accepts place key value = true)
    (attaches : ∀ (reading : Reading) (rest : List String),
      readFrom place false reading (word :: rest) =
        reading.attach place key value >>= fun reading => readFrom place false reading rest) :
    Adds place settings [word] [(key, value)] := by
  intro reading settles rest
  have isSet := Reading.set_eq_ok isNew isAccepted
  refine ⟨⟨none, settings ++ [(key, value)]⟩, rfl, ?_⟩
  rw [List.singleton_append, attaches, Reading.attach, settles, ok_bind, isSet, ok_bind]

theorem adds_of_await {word : String} (isNew : CanFollow place settings key)
    (isAccepted : accepts place key value = true) (alone : standsAlone value = true)
    (awaits : ∀ (reading : Reading) (rest : List String),
      readFrom place false reading (word :: rest) =
        reading.await place key >>= fun reading => readFrom place false reading rest) :
    Adds place settings [word, value] [(key, value)] := by
  intro reading settles rest
  have isSet := Reading.set_eq_ok isNew isAccepted
  refine ⟨⟨some (key, some value), settings⟩, isSet, ?_⟩
  have awaiting : (⟨some (key, none), settings⟩ : Reading).awaited? = some key := rfl
  rw [List.cons_append, awaits, Reading.await, settles, List.singleton_append]
  exact readFrom_awaited place _ alone awaiting

theorem adds_of_subject {verb : Verb} (takesSubject : hasSubject (some verb) = true)
    (isNew : CanFollow (some verb) settings .subject)
    (isAccepted : accepts (some verb) .subject value = true) (alone : standsAlone value = true) :
    Adds (some verb) settings [value] [(.subject, value)] := by
  intro reading settles rest
  have isSet := Reading.set_eq_ok isNew isAccepted
  refine ⟨⟨some (.subject, some value), settings⟩, isSet, ?_⟩
  have noSubject : reading.hasSubject = false := by
    rw [Reading.hasSubject_of_settle settles]
    rcases isNew with repeatable | others
    · simp [isRepeatable] at repeatable
    · simpa using others
  rw [List.singleton_append, readFrom_subject reading alone (Reading.awaited?_of_settle settles),
    Reading.readSubject, takesSubject, noSubject, settles]
  rfl

theorem Fits.mem_keysAt (fits : Fits place key value) (notSubject : key ≠ .subject) :
    key ∈ keysAt place :=
  fits.isKnown.resolve_right fun isSubject => notSubject isSubject.1

theorem Key.ne_subject_of_long? {name : String} (isLong : key.long? = some name) :
    key ≠ .subject := by
  rintro rfl
  cases isLong

theorem Key.ne_subject_of_short? {c : Char} (isShort : key.short? = some c) : key ≠ .subject := by
  rintro rfl
  cases isShort

theorem Key.ne_dash_of_short? {c : Char} (isShort : key.short? = some c) : c ≠ '-' := by
  rintro rfl
  cases key <;> simp [Key.short?] at isShort

theorem subject_notMem_keysAt : Key.subject ∉ keysAt place := by
  match place with
  | none | some .new | some .render | some .build | some .compile => decide

theorem toList_long (name : String) : ("--" ++ name).toList = '-' :: '-' :: name.toList := by
  simp

theorem toList_longJoined (name value : String) :
    ("--" ++ name ++ "=" ++ value).toList =
      '-' :: '-' :: (name.toList ++ '=' :: value.toList) := by
  simp

theorem toList_shortAttached (c : Char) (value : String) :
    (String.ofList ['-', c] ++ value).toList = '-' :: c :: value.toList := by
  simp

theorem toList_shortJoined (c : Char) (value : String) :
    (String.ofList ['-', c] ++ "=" ++ value).toList = '-' :: c :: '=' :: value.toList := by
  simp

/-- A setting is read from every spelling. -/
theorem Spells.adds {setting : Setting} {words : List String} (spelled : Spells setting words)
    (fits : Fits place setting.1 setting.2) (isNew : CanFollow place settings setting.1) :
    Adds place settings words [setting] := by
  cases spelled with
  | subject =>
      rcases fits.isKnown with isKnown | ⟨-, takesSubject⟩
      · exact absurd isKnown subject_notMem_keysAt
      · cases place with
        | none => cases takesSubject
        | some verb =>
            exact adds_of_subject takesSubject isNew fits.isAccepted (fits.standsAlone rfl)
  | @long key name value isLong takesValue =>
      have isKnown := fits.mem_keysAt (Key.ne_subject_of_long? isLong)
      obtain ⟨noEquals, notEmpty⟩ := Key.equals_notMem_long isLong
      refine adds_of_await isNew fits.isAccepted (fits.standsAlone takesValue) ?_
      intro reading rest
      rw [readFrom_long place reading rest (toList_long name) notEmpty, longParts_name noEquals,
        readLong_name isKnown isLong, if_pos takesValue]
  | @longJoined key name value isLong takesValue =>
      have isKnown := fits.mem_keysAt (Key.ne_subject_of_long? isLong)
      obtain ⟨noEquals, -⟩ := Key.equals_notMem_long isLong
      refine adds_of_attach isNew fits.isAccepted ?_
      intro reading rest
      rw [readFrom_long place reading rest (toList_longJoined name value) (by simp),
        longParts_joined noEquals, readLong_joined isKnown isLong takesValue]
  | @short key c value isShort takesValue =>
      have isKnown := fits.mem_keysAt (Key.ne_subject_of_short? isShort)
      refine adds_of_await isNew fits.isAccepted (fits.standsAlone takesValue) ?_
      intro reading rest
      rw [readFrom_short place reading rest String.toList_ofList (Key.ne_dash_of_short? isShort),
        readShort_name isKnown isShort, if_pos takesValue]
  | @shortAttached key c value isShort takesValue =>
      have isKnown := fits.mem_keysAt (Key.ne_subject_of_short? isShort)
      refine adds_of_attach isNew fits.isAccepted ?_
      intro reading rest
      rw [readFrom_short place reading rest (toList_shortAttached c value)
          (Key.ne_dash_of_short? isShort),
        readShort_attached isKnown isShort takesValue (fits.standsAlone takesValue)]
  | @shortJoined key c value isShort takesValue =>
      have isKnown := fits.mem_keysAt (Key.ne_subject_of_short? isShort)
      refine adds_of_attach isNew fits.isAccepted ?_
      intro reading rest
      rw [readFrom_short place reading rest (toList_shortJoined c value)
          (Key.ne_dash_of_short? isShort), readShort_joined isKnown isShort takesValue]
  | @longFlag key name isLong isFlag =>
      have isKnown := fits.mem_keysAt (Key.ne_subject_of_long? isLong)
      obtain ⟨noEquals, notEmpty⟩ := Key.equals_notMem_long isLong
      refine adds_of_attach isNew fits.isAccepted ?_
      intro reading rest
      rw [readFrom_long place reading rest (toList_long name) notEmpty, longParts_name noEquals,
        readLong_name isKnown isLong, isFlag, if_neg (by decide),
        Reading.raise_eq fits.isSetting]
  | @shortFlag key c isShort isFlag =>
      have isKnown := fits.mem_keysAt (Key.ne_subject_of_short? isShort)
      refine adds_of_attach isNew fits.isAccepted ?_
      intro reading rest
      rw [readFrom_short place reading rest String.toList_ofList (Key.ne_dash_of_short? isShort),
        readShort_name isKnown isShort, isFlag, if_neg (by decide),
        Reading.raise_eq fits.isSetting]

theorem canFollow_of_length_le {setting : Setting} {more : List Setting}
    (isSingle : (valuesOf (settings ++ setting :: more) setting.1).length ≤ 1) :
    CanFollow place settings setting.1 := by
  refine .inr fun other isIn same => ?_
  have isKept : other ∈ settings.filter fun other => other.1 == setting.1 :=
    List.mem_filter.mpr ⟨isIn, by simpa using same⟩
  have isThere := List.length_pos_of_mem isKept
  simp only [valuesOf, List.length_map, List.filter_append, List.length_append, List.filter_cons,
    beq_self_eq_true, if_pos, List.length_cons] at isSingle
  omega

/-- Settings are read from their spellings one after another, if all of them fit and none but those
that may be repeated is made twice. -/
theorem SpellsAll.adds {added : List Setting} {words : List String}
    (spelled : SpellsAll added words) (fits : ∀ setting ∈ added, Fits place setting.1 setting.2)
    (areNew : ∀ key, isRepeatable place key = true ∨
      (valuesOf (settings ++ added) key).length ≤ 1) :
    Adds place settings words added := by
  induction spelled generalizing settings with
  | nil => exact Adds.nil
  | @cons setting more words later spelled laterSpelled ih =>
      have isNew : CanFollow place settings setting.1 :=
        (areNew setting.1).elim .inl canFollow_of_length_le
      have first := spelled.adds (fits setting List.mem_cons_self) isNew
      refine first.append (ih ?_ ?_)
      · exact fun other isLater => fits other (List.mem_cons_of_mem setting isLater)
      · simpa using areNew

end Adds

end Polyview.CommandLine

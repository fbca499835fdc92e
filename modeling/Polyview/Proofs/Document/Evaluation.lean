import Polyview.Document.Reader
import Polyview.Proofs.Document.Members
import Polyview.Proofs.Json.Skipping

/-!
# The document that a phrase describes

Whether a JSON text describes a document, and which one, is a matter of its phrase alone. The reader
is followed member by member here; what it makes of them is said for each name apart, so nothing is
left of the order in which it has come across them.
-/

namespace Polyview

open Json

namespace Json.Phrase

/-- The text that a phrase is. -/
def plainText? : Phrase → Option String
  | .text units => TextUnit.text? units
  | _ => none

/-- The kind of node that a phrase names. -/
def kindWord? (phrase : Phrase) : Option NodeKind :=
  phrase.plainText?.bind fun word => (NodeKind.ofWord word).toOption

def textMember? (member : List TextUnit × Phrase) : Option (String × String) :=
  (TextUnit.text? member.1).bind fun name => member.2.plainText?.map fun text => (name, text)

def insertAll (table : TextTable) (entries : List (String × String)) : TextTable :=
  entries.foldl (fun table entry => table.insert entry.1 entry.2) table

/-- The table of texts that a phrase describes. -/
def table? : Phrase → Option TextTable
  | .object members => (members.mapM textMember?).map (insertAll .empty)
  | _ => none

/-- The kind of a root, which is always a word. -/
def rootKind? : Phrase → Option NodeKind
  | .object members => (gathered TextUnit.text? "type" kindWord? none members).bind id
  | .list (kind :: _) => kind.kindWord?
  | _ => none

/-- The root that a phrase describes: a node like any other, but for its kind. -/
def root? (depth : Nat) (phrase : Phrase) : Option Node :=
  phrase.rootKind?.bind fun _ =>
    (phrase.value? depth).bind fun value => (Node.ofValue value).toOption

/-- The document that members describe, behind a table and a root that have been read before. -/
def documentOf? (depth : Nat) (state : Option TextTable) (root : Option Node)
    (members : List (List TextUnit × Phrase)) : Option Document :=
  (gathered TextUnit.text? "state" table? state members).bind fun state =>
    (gathered TextUnit.text? "root" (root? depth) root members).bind fun root =>
      root.map fun root => ⟨state.getD .empty, root⟩

/-- The document that a phrase describes. -/
def document? : Nat → Phrase → Option Document
  | depth + 1, .object members => documentOf? depth none none members
  | depth + 1, .list [state, root] =>
      state.table?.bind fun state => (root.root? depth).map fun root => ⟨state, root⟩
  | _, _ => none

end Json.Phrase

namespace Document

open Json.Phrase

variable {phrase : Phrase} {chars gap rest : List Char} {cursor : Cursor}

theorem refuse_finds {α : Type} (cursor : Cursor) (wanted : String) (rest : List Char) :
    Finds (refuse cursor wanted : Except Fault (α × Cursor)) none rest := by
  unfold refuse
  cases findAt cursor with
  | error fault => exact ⟨fault, rfl⟩
  | ok found => exact ⟨_, rfl⟩

/-- A reader refuses a phrase that does not start like what it wants. -/
theorem refused_of_writes {α : Type} {c : Char} {result : Except Fault (α × Cursor)}
    (written : Writes (.phrase phrase) chars) (isGap : IsGap gap)
    (left : cursor.rest = gap ++ (chars ++ rest)) (other : phrase.startsWith c = false)
    (wanted : String) :
    Finds (if cursor.skipGap.rest.head? = some c then result else refuse cursor.skipGap wanted)
      none rest := by
  rw [rest_skipGap_of_writes written isGap left, if_neg (head?_ne_of_writes written other rest)]
  exact refuse_finds _ wanted rest

/-- There are enough steps for what stands behind an opening bracket. -/
theorem length_le_stepsFor {c : Char} (starts : cursor.rest = c :: (chars ++ rest)) :
    chars.length ≤ stepsFor cursor := by
  simp only [stepsFor, starts, List.length_append, List.length_cons]
  omega

/-! ## Texts and tables -/

theorem readPlainText_of_writes (written : Writes (.phrase phrase) chars) (isGap : IsGap gap)
    (left : cursor.rest = gap ++ (chars ++ rest)) :
    Finds (readPlainText cursor) phrase.plainText? rest := by
  have starts := rest_skipGap_of_writes written isGap left
  have refused (other : phrase.startsWith '"' = false) :
      Finds (readPlainText cursor) none rest :=
    refused_of_writes written isGap left other "a string"
  cases phrase with
  | text units =>
      cases written with
      | text =>
          have quote : cursor.skipGap.rest.head? = some '"' := by simp [starts, TextUnit.quoted]
          simp only [readPlainText, quote, ↓reduceIte]
          exact TextUnit.readText_finds starts
  | boolean value => cases value <;> exact refused rfl
  | null | number | list | object => exact refused rfl

theorem readKind_of_writes (written : Writes (.phrase phrase) chars) (isGap : IsGap gap)
    (left : cursor.rest = gap ++ (chars ++ rest)) :
    Finds (readKind cursor) phrase.kindWord? rest := by
  have starts := rest_skipGap_of_writes written isGap left
  have refused (other : phrase.startsWith '"' = false) : Finds (readKind cursor) none rest :=
    refused_of_writes written isGap left other "variant identifier"
  cases phrase with
  | text units =>
      cases written with
      | text =>
          have quote : cursor.skipGap.rest.head? = some '"' := by simp [starts, TextUnit.quoted]
          simp only [readKind, quote, ↓reduceIte, kindWord?, plainText?]
          refine (TextUnit.readText_finds starts).bind fun word after _ behind => ?_
          cases kind : NodeKind.ofWord word with
          | error cause => exact ⟨_, rfl⟩
          | ok kind => exact .done behind
  | boolean value => cases value <;> exact refused rfl
  | null | number | list | object => exact refused rfl

theorem mapM_textMember?_cons {units : List TextUnit} {name : String}
    (named : TextUnit.text? units = some name) (table : TextTable)
    (members : List (List TextUnit × Phrase)) :
    (((units, phrase) :: members).mapM textMember?).map (insertAll table) =
      phrase.plainText?.bind fun text =>
        (members.mapM textMember?).map (insertAll (table.insert name text)) := by
  rw [List.mapM_cons]
  simp only [textMember?, named, Option.bind_some]
  cases phrase.plainText? with
  | none => rfl
  | some text => cases members.mapM textMember? <;> rfl

/-- The entries of a table are put into it one after another. -/
theorem readEntries_of_writes {members : List (List TextUnit × Phrase)} {isFirst : Bool}
    (written : Writes (.members isFirst members) chars) {fuel : Nat}
    (enough : chars.length ≤ fuel) (table : TextTable) (left : cursor.rest = chars ++ rest) :
    Finds (readEntries fuel isFirst table cursor)
      ((members.mapM textMember?).map (insertAll table)) rest := by
  induction members generalizing table isFirst chars fuel cursor with
  | nil =>
      obtain ⟨fuel, rfl⟩ := exists_step_of_writes fuel written enough
      obtain ⟨closed, behind⟩ := nextName?_of_noMember written left
      rw [readEntries, closed]
      exact .done behind
  | cons member members ih =>
      obtain ⟨fuel, rfl⟩ := exists_step_of_writes fuel written enough
      cases written with
      | @member _ units gap space before behind chars more phrase _ isGap isSpace isBefore isBehind
          first later =>
          simp only [List.append_assoc, List.cons_append] at left
          simp only [List.length_append, List.length_cons] at enough
          rw [readEntries]
          cases named : TextUnit.text? units with
          | none =>
              obtain ⟨fault, failed⟩ := nextName?_of_nameless isGap isSpace left named
              rw [List.mapM_cons]
              simp only [textMember?, named]
              exact ⟨fault, by rw [failed]; rfl⟩
          | some name =>
              obtain ⟨start, next, left⟩ := nextName?_of_named isGap isSpace left named
              rw [next, ok_bind, mapM_textMember?_cons named]
              refine (readColon_leaves isBefore left).find fun colon left => ?_
              refine (readPlainText_of_writes first isBehind left).bind fun text after _ left => ?_
              exact ih later (by omega) (table.insert name text) left

theorem readState_of_writes (written : Writes (.phrase phrase) chars) (isGap : IsGap gap)
    (left : cursor.rest = gap ++ (chars ++ rest)) :
    Finds (readState cursor) phrase.table? rest := by
  have starts := rest_skipGap_of_writes written isGap left
  have refused (other : phrase.startsWith '{' = false) : Finds (readState cursor) none rest :=
    refused_of_writes written isGap left other "a map"
  cases phrase with
  | object members =>
      cases written with
      | @object _ chars inside =>
          have brace : cursor.skipGap.rest.head? = some '{' := by simp [starts]
          simp only [readState, brace, ↓reduceIte]
          exact readEntries_of_writes inside (length_le_stepsFor starts) .empty (by simp [starts])
  | boolean value => cases value <;> exact refused rfl
  | null | number | list | text => exact refused rfl

/-! ## Roots -/

/-- What is found of the members of a root: its kind, and the other members. -/
def rootMembers? (depth : Nat) (kind : Option NodeKind) (members : List (List TextUnit × Phrase)) :
    Option (NodeKind × List (String × Value)) :=
  ((gathered TextUnit.text? "type" kindWord? kind members).bind id).bind fun kind =>
    (memberValues? depth members).map fun values =>
      (kind, values.filter fun member => member.1 ≠ "type")

section RootMembers

variable {depth : Nat} {units : List TextUnit}

theorem exists_word_of_kindWord? (depth : Nat) {kind : NodeKind}
    (isKind : phrase.kindWord? = some kind) :
    ∃ word, phrase.value? depth = some (.text word) ∧ NodeKind.ofWord word = .ok kind := by
  cases phrase with
  | text units =>
      simp only [kindWord?, plainText?, Option.bind_eq_some_iff] at isKind
      obtain ⟨word, isWord, isKind⟩ := isKind
      refine ⟨word, by simp [value?, isWord], ?_⟩
      cases read : NodeKind.ofWord word with
      | error cause => simp [read, Except.toOption] at isKind
      | ok found =>
          obtain rfl : found = kind := by simpa [read, Except.toOption] using isKind
          rfl
  | null | boolean | number | list | object => simp [kindWord?, plainText?] at isKind

theorem rootMembers?_type (named : TextUnit.text? units = some "type") (kind : Option NodeKind)
    (members : List (List TextUnit × Phrase)) :
    rootMembers? depth kind ((units, phrase) :: members) =
      match kind with
      | some _ => none
      | none => phrase.kindWord?.bind fun kind => rootMembers? depth (some kind) members := by
  rw [rootMembers?, gathered_cons, gather_of_eq named, memberValues?]
  simp only [named, Option.bind_some]
  cases kind with
  | some known => rfl
  | none =>
      cases isKind : phrase.kindWord? with
      | none => rfl
      | some kind =>
          obtain ⟨word, isWord, -⟩ := exists_word_of_kindWord? depth isKind
          simp only [isWord, Option.map_some, Option.bind_some, Option.map_map, rootMembers?]
          refine congrArg _ (funext fun kind => ?_)
          cases memberValues? depth members with
          | none => rfl
          | some values => simp

theorem rootMembers?_other {name : String} (named : TextUnit.text? units = some name)
    (notType : name ≠ "type") (kind : Option NodeKind)
    (members : List (List TextUnit × Phrase)) :
    rootMembers? depth kind ((units, phrase) :: members) =
      (phrase.value? depth).bind fun value =>
        (rootMembers? depth kind members).map fun found => (found.1, (name, value) :: found.2) := by
  rw [rootMembers?, gathered_cons, gather_of_ne named notType, memberValues?]
  simp only [named, Option.bind_some, rootMembers?]
  cases phrase.value? depth with
  | none => simp
  | some value =>
      simp only [Option.bind_some, Option.map_map, Option.map_bind]
      refine congrArg _ (funext fun kind => ?_)
      cases memberValues? depth members with
      | none => rfl
      | some values => simp [notType]

/-- Among the values of members the kind is found that stands among the members. -/
theorem under_type_of_gathered (depth : Nat) {known found : Option NodeKind}
    {members : List (List TextUnit × Phrase)} {values : List (String × Value)}
    (isFound : gathered TextUnit.text? "type" kindWord? known members = some found)
    (evaluated : memberValues? depth members = some values) :
    Node.under "type" NodeKind.ofValue known values = some found := by
  induction members generalizing known values with
  | nil =>
      obtain rfl : [] = values := by simpa [memberValues?] using evaluated
      exact isFound
  | cons member members ih =>
      obtain ⟨units, phrase⟩ := member
      rw [memberValues?] at evaluated
      obtain ⟨name, named, evaluated⟩ := Option.bind_eq_some_iff.mp evaluated
      obtain ⟨value, isValue, evaluated⟩ := Option.bind_eq_some_iff.mp evaluated
      obtain ⟨rest, isRest, rfl⟩ := Option.map_eq_some_iff.mp evaluated
      rw [gathered_cons] at isFound
      by_cases isType : name = "type"
      · subst isType
        rw [gather_of_eq named] at isFound
        cases known with
        | some kind => cases isFound
        | none =>
            dsimp only at isFound
            obtain ⟨_, isNew, isFound⟩ := Option.bind_eq_some_iff.mp isFound
            obtain ⟨kind, isKind, rfl⟩ := Option.map_eq_some_iff.mp isNew
            obtain ⟨word, isWord, isOf⟩ := exists_word_of_kindWord? depth isKind
            obtain rfl : Value.text word = value := by
              rw [isWord] at isValue
              exact Option.some.inj isValue
            rw [Node.under_same, Node.once, NodeKind.ofValue, isOf]
            exact ih isFound isRest
      · rw [gather_of_ne named isType] at isFound
        rw [Node.under_other isType]
        exact ih isFound isRest

/-- The root is decoded from its kind and its other members as from its whole value. -/
theorem root?_object (members : List (List TextUnit × Phrase)) :
    root? (depth + 1) (.object members) =
      (rootMembers? depth none members).bind fun found =>
        (Node.ofMembers found.1 found.2).toOption := by
  rw [root?, rootKind?, rootMembers?]
  cases isFound : gathered TextUnit.text? "type" kindWord? none members with
  | none => rfl
  | some found =>
      cases found with
      | none => rfl
      | some kind =>
          rw [value?]
          cases evaluated : memberValues? depth members with
          | none => rfl
          | some values =>
              have sameKind : (Node.kindOfMembers none values).toOption = some kind := by
                rw [Node.kindOfMembers_eq, under_type_of_gathered depth isFound evaluated]
                rfl
              have sameNode := Node.ofMembers_alike kind fun name unlike =>
                Node.alikeUnder_filter unlike values
              simp only [Option.bind_some, id, Option.map_some]
              rw [Node.ofValue_object, toOption_bind, sameKind, sameNode]
              rfl

theorem root?_list (kind : Phrase) (items : List Phrase) :
    root? (depth + 1) (.list (kind :: items)) =
      (kind.kindWord?.bind fun kind => (values? depth items).map fun values => (kind, values)).bind
        fun found => (Node.ofItems found.1 found.2).toOption := by
  rw [root?, rootKind?, value?, values?]
  cases isKind : kind.kindWord? with
  | none => rfl
  | some found =>
      obtain ⟨word, isWord, isOf⟩ := exists_word_of_kindWord? depth isKind
      rw [isWord]
      cases values? depth items with
      | none => rfl
      | some values =>
          simp only [Option.bind_some, Option.map_some]
          rw [Node.ofValue_list, toOption_bind, NodeKind.ofValue, isOf]
          rfl

end RootMembers

/-- A reader finds two things at once. -/
def FindsBoth {α β ε : Type} (result : Except ε (α × β × Cursor)) (found : Option (α × β))
    (rest : List Char) : Prop :=
  match found with
  | some both => ∃ after : Cursor, result = .ok (both.1, both.2, after) ∧ after.rest = rest
  | none => ∃ fault, result = .error fault

theorem placed_finds {α : Type} {result : Except Fault (α × Cursor)} {found : Option α}
    (finds : Finds result found rest) : Finds (placed result) found rest := by
  cases found with
  | none =>
      obtain ⟨fault, failed⟩ := finds
      exact ⟨.fault fault, by rw [failed]; rfl⟩
  | some value =>
      obtain ⟨after, read, left⟩ := finds
      exact ⟨after, by rw [read]; rfl, left⟩

theorem settled_finds {α : Type} {result : Except Raised (α × Cursor)} {found : Option α}
    {place : Cursor → Position} (finds : Finds result found rest) :
    Finds (settled place result) found rest := by
  cases found with
  | none =>
      obtain ⟨fault, failed⟩ := finds
      rw [failed]
      cases fault <;> exact ⟨_, rfl⟩
  | some value =>
      obtain ⟨after, read, left⟩ := finds
      exact ⟨after, by rw [read]; rfl, left⟩

theorem bind_findsBoth {α β γ ε : Type} {result : Except ε (α × Cursor)} {found : Option α}
    {middle : List Char} {next : α × Cursor → Except ε (β × γ × Cursor)}
    {later : α → Option (β × γ)} (finds : Finds result found middle)
    (onward : ∀ (value : α) (cursor : Cursor), cursor.rest = middle →
      FindsBoth (next (value, cursor)) (later value) rest) :
    FindsBoth (result >>= next) (found.bind later) rest := by
  cases found with
  | none =>
      obtain ⟨fault, failed⟩ := finds
      exact ⟨fault, by rw [failed]; rfl⟩
  | some value =>
      obtain ⟨cursor, read, left⟩ := finds
      rw [read]
      exact onward value cursor left

theorem readRootMembers_of_writes {members : List (List TextUnit × Phrase)} {isFirst : Bool}
    (written : Writes (.members isFirst members) chars) {fuel depth : Nat}
    (enough : chars.length ≤ fuel) (kind : Option NodeKind) (left : cursor.rest = chars ++ rest) :
    FindsBoth (readRootMembers fuel depth isFirst kind cursor) (rootMembers? depth kind members)
      rest := by
  induction members generalizing kind isFirst chars fuel cursor with
  | nil =>
      obtain ⟨fuel, rfl⟩ := exists_step_of_writes fuel written enough
      obtain ⟨closed, behind⟩ := nextName?_of_noMember written left
      unfold readRootMembers
      rw [closed]
      cases kind with
      | none => exact ⟨_, rfl⟩
      | some kind => exact ⟨cursor.skipGap.skip 1, rfl, behind⟩
  | cons member members ih =>
      obtain ⟨fuel, rfl⟩ := exists_step_of_writes fuel written enough
      cases written with
      | @member _ units gap space before behind chars more phrase _ isGap isSpace isBefore isBehind
          first later =>
          simp only [List.append_assoc, List.cons_append] at left
          have enoughLater : more.length ≤ fuel := by
            simp only [List.length_append, List.length_cons] at enough
            omega
          unfold readRootMembers
          cases named : TextUnit.text? units with
          | none =>
              obtain ⟨fault, failed⟩ := nextName?_of_nameless isGap isSpace left named
              rw [rootMembers?, gathered_cons, gather_of_nameless named, failed]
              exact ⟨_, rfl⟩
          | some name =>
              obtain ⟨start, next, left⟩ := nextName?_of_named isGap isSpace left named
              obtain ⟨colon, passed, left⟩ := readColon_leaves isBefore left
              rw [next, placed, mapError_ok, ok_bind]
              dsimp only
              by_cases isType : name = "type"
              · subst isType
                rw [if_pos rfl, rootMembers?_type named]
                cases kind with
                | some known => exact ⟨_, rfl⟩
                | none =>
                    have finds := placed_finds (readKind_of_writes first isBehind left)
                    rw [passed, ok_bind]
                    exact bind_findsBoth finds fun found after left =>
                      ih later enoughLater (some found) left
              · rw [if_neg isType, rootMembers?_other named isType, passed, ok_bind]
                have finds : Finds (readValue depth colon) (phrase.value? depth) (more ++ rest) :=
                  readValue_of_writes first (stops_of_members later rest) isBehind left
                refine bind_findsBoth (placed_finds finds) fun value after left => ?_
                have others := ih later enoughLater kind left
                dsimp only
                cases isFound : rootMembers? depth kind members with
                | none =>
                    rw [isFound] at others
                    obtain ⟨fault, failed⟩ := others
                    exact ⟨fault, by rw [failed]; rfl⟩
                | some found =>
                    rw [isFound] at others
                    obtain ⟨final, read, left⟩ := others
                    exact ⟨final, by rw [read]; rfl, left⟩

theorem readRootItems_of_writes {kind : Phrase} {items : List Phrase}
    (written : Writes (.items true (kind :: items)) chars) {depth : Nat} (stops : Stops rest)
    (left : cursor.rest = chars ++ rest) :
    FindsBoth (readRootItems depth cursor)
      (kind.kindWord?.bind fun kind => (values? depth items).map fun values => (kind, values))
      rest := by
  cases written with
  | @item _ gap space chars more _ _ isGap isSpace first later =>
      simp only [List.append_assoc] at left
      obtain ⟨start, next, left⟩ := nextItem?_of_writes true isGap isSpace first left
      unfold readRootItems
      rw [next, placed, mapError_ok, ok_bind]
      refine bind_findsBoth (placed_finds (readKind_of_writes first isGap_nil left))
        fun kind after left => ?_
      have enough : 2 * more.length ≤ stepsFor after := by
        simp only [stepsFor, left, List.length_append]
        omega
      have finds : Finds (readItems (stepsFor after) depth false after) (values? depth items) rest :=
        isReadFrom_of_writes later enough stops after left
      rw [Option.map_eq_bind]
      exact bind_findsBoth (placed_finds finds) fun values final left => ⟨final, rfl, left⟩

/-- A node is decoded from what has been found, once what is around it has been left. -/
theorem decode_findsBoth {β : Type} {place : Cursor → Position}
    {result : Except Raised (NodeKind × β × Cursor)} {found : Option (NodeKind × β)}
    (decode : NodeKind → β → Except Cause Node) (finds : FindsBoth result found rest) :
    Finds (do
      let (kind, parts, cursor) ← placed (settled place result)
      match decode kind parts with
      | .ok node => return (node, cursor)
      | .error cause => throw (Raised.loose cause cursor))
      (found.bind fun found => (decode found.1 found.2).toOption) rest := by
  cases found with
  | none =>
      obtain ⟨fault, failed⟩ := finds
      rw [failed]
      cases fault <;> exact ⟨_, rfl⟩
  | some found =>
      obtain ⟨after, read, left⟩ := finds
      rw [read]
      simp only [settled, placed, mapError_ok, ok_bind, Option.bind_some]
      cases decode found.1 found.2 with
      | error cause => exact ⟨_, rfl⟩
      | ok node => exact .done left

theorem readRoot_of_writes (written : Writes (.phrase phrase) chars) (depth : Nat)
    (stops : Stops rest) (isGap : IsGap gap) (left : cursor.rest = gap ++ (chars ++ rest)) :
    Finds (readRoot depth cursor) (phrase.root? depth) rest := by
  have starts := rest_skipGap_of_writes written isGap left
  have refused (notObject : phrase.startsWith '{' = false)
      (notList : phrase.startsWith '[' = false) : Finds (readRoot depth cursor) none rest := by
    unfold readRoot
    dsimp only
    rw [starts, if_neg (head?_ne_of_writes written notObject rest),
      if_neg (head?_ne_of_writes written notList rest)]
    exact placed_finds (refuse_finds _ _ rest)
  cases phrase with
  | object members =>
      cases written with
      | @object _ chars inside =>
          have brace : cursor.skipGap.rest.head? = some '{' := by simp [starts]
          unfold readRoot
          simp only [brace, ↓reduceIte]
          cases depth with
          | zero =>
              have tooDeep : root? 0 (.object members) = none := by simp [root?, value?]
              rw [tooDeep]
              exact ⟨_, rfl⟩
          | succ depth =>
              rw [root?_object]
              exact decode_findsBoth Node.ofMembers
                (readRootMembers_of_writes inside (length_le_stepsFor starts) none
                  (by simp [starts]))
  | list items =>
      cases written with
      | @list _ chars inside =>
          have bracket : cursor.skipGap.rest.head? = some '[' := by simp [starts]
          unfold readRoot
          simp only [bracket, Option.some.injEq, Char.reduceEq, ↓reduceIte]
          cases depth with
          | zero =>
              have tooDeep : root? 0 (.list items) = none := by simp [root?, value?]
              rw [tooDeep]
              exact ⟨_, rfl⟩
          | succ depth =>
              have opened : (cursor.skipGap.skip 1).rest = chars ++ rest := by simp [starts]
              cases items with
              | nil =>
                  obtain ⟨closed, -⟩ := nextItem?_of_noItem inside opened
                  unfold readRootItems
                  rw [closed]
                  exact ⟨_, rfl⟩
              | cons kind items =>
                  rw [root?_list]
                  exact decode_findsBoth Node.ofItems (readRootItems_of_writes inside stops opened)
  | boolean value => cases value <;> exact refused rfl rfl
  | null | number | text => exact refused rfl rfl

/-! ## Documents -/

theorem documentOf?_state {depth : Nat} {units : List TextUnit}
    (named : TextUnit.text? units = some "state") (state : Option TextTable) (root : Option Node)
    (members : List (List TextUnit × Phrase)) :
    documentOf? depth state root ((units, phrase) :: members) =
      match state with
      | some _ => none
      | none => phrase.table?.bind fun table => documentOf? depth (some table) root members := by
  unfold documentOf?
  rw [gathered_cons, gathered_cons, gather_of_eq named, gather_of_ne named (by decide)]
  cases state with
  | some known => rfl
  | none => cases phrase.table? <;> rfl

theorem documentOf?_root {depth : Nat} {units : List TextUnit}
    (named : TextUnit.text? units = some "root") (state : Option TextTable) (root : Option Node)
    (members : List (List TextUnit × Phrase)) :
    documentOf? depth state root ((units, phrase) :: members) =
      match root with
      | some _ => none
      | none =>
          (phrase.root? depth).bind fun node => documentOf? depth state (some node) members := by
  unfold documentOf?
  rw [gathered_cons, gathered_cons, gather_of_eq named, gather_of_ne named (by decide)]
  cases root with
  | some known => simp
  | none => cases phrase.root? depth <;> simp

theorem documentOf?_other {depth : Nat} {units : List TextUnit} {name : String}
    (named : TextUnit.text? units = some name) (notState : name ≠ "state")
    (notRoot : name ≠ "root") (state : Option TextTable) (root : Option Node)
    (members : List (List TextUnit × Phrase)) :
    documentOf? depth state root ((units, phrase) :: members) =
      documentOf? depth state root members := by
  unfold documentOf?
  rw [gathered_cons, gathered_cons, gather_of_ne named notState, gather_of_ne named notRoot]
  rfl

/-- The members of a document are found in whatever order they stand. -/
theorem readDocumentMembers_of_writes {members : List (List TextUnit × Phrase)} {isFirst : Bool}
    (written : Writes (.members isFirst members) chars) {fuel depth : Nat}
    (enough : chars.length ≤ fuel) (state : Option TextTable) (root : Option Node)
    (left : cursor.rest = chars ++ rest) :
    Finds (readDocumentMembers fuel depth isFirst state root cursor)
      (documentOf? depth state root members) rest := by
  induction members generalizing state root isFirst chars fuel cursor with
  | nil =>
      obtain ⟨fuel, rfl⟩ := exists_step_of_writes fuel written enough
      obtain ⟨closed, behind⟩ := nextName?_of_noMember written left
      unfold readDocumentMembers
      rw [closed]
      cases root with
      | none => exact ⟨_, rfl⟩
      | some root => exact .done behind
  | cons member members ih =>
      obtain ⟨fuel, rfl⟩ := exists_step_of_writes fuel written enough
      cases written with
      | @member _ units gap space before behind chars more phrase _ isGap isSpace isBefore isBehind
          first later =>
          simp only [List.append_assoc, List.cons_append] at left
          have enoughLater : more.length ≤ fuel := by
            simp only [List.length_append, List.length_cons] at enough
            omega
          have stops := stops_of_members later rest
          unfold readDocumentMembers
          cases named : TextUnit.text? units with
          | none =>
              obtain ⟨fault, failed⟩ := nextName?_of_nameless isGap isSpace left named
              rw [documentOf?, gathered_cons, gather_of_nameless named, failed]
              exact ⟨_, rfl⟩
          | some name =>
              obtain ⟨start, next, left⟩ := nextName?_of_named isGap isSpace left named
              obtain ⟨colon, passed, left⟩ := readColon_leaves isBefore left
              rw [next, placed, mapError_ok, ok_bind]
              dsimp only
              by_cases isState : name = "state"
              · subst isState
                rw [if_pos rfl, documentOf?_state named]
                cases state with
                | some known => exact ⟨_, rfl⟩
                | none =>
                    have finds := placed_finds (readState_of_writes first isBehind left)
                    rw [passed, ok_bind]
                    exact finds.bind fun table after _ left =>
                      ih later enoughLater (some table) root left
              · rw [if_neg isState]
                by_cases isRoot : name = "root"
                · subst isRoot
                  rw [if_pos rfl, documentOf?_root named]
                  cases root with
                  | some known => exact ⟨_, rfl⟩
                  | none =>
                      have finds := readRoot_of_writes first depth stops isBehind left
                      rw [passed]
                      exact finds.bind fun node after _ left =>
                        ih later enoughLater state (some node) left
                · rw [if_neg isRoot, documentOf?_other named isState isRoot, passed, ok_bind]
                  obtain ⟨after, skipped, left⟩ := skipValue_of_writes first stops isBehind left
                  rw [skipped]
                  exact ih later enoughLater state root left

theorem closeList_leaves (isGap : IsGap gap) (left : cursor.rest = gap ++ ']' :: rest) :
    Leaves (closeList cursor) rest := by
  have closing := Cursor.rest_skipGap_of_gap isGap (by simp [StartsVisibly, Cursor.isGap]) left
  exact ⟨cursor.skipGap.skip 1, by simp [closeList, closing], by simp [closing]⟩

theorem closeList_fails (isGap : IsGap gap) (left : cursor.rest = gap ++ ',' :: rest) :
    ∃ fault, closeList cursor = .error fault := by
  have separated := Cursor.rest_skipGap_of_gap isGap (by simp [StartsVisibly, Cursor.isGap]) left
  unfold closeList
  simp only [separated, Char.reduceEq, ↓reduceIte]
  split <;> exact ⟨_, rfl⟩

/-- Of a document written as a list two items are read, and what stands behind them is left. -/
theorem readDocumentItems_of_writes {state root : Phrase} {items : List Phrase} {depth : Nat}
    (written : Writes (.items true (state :: root :: items)) chars)
    (left : cursor.rest = chars ++ rest) :
    ∃ more, Writes (.items false items) more ∧
      Finds (readDocumentItems depth cursor)
        (state.table?.bind fun state => (root.root? depth).map fun root => ⟨state, root⟩)
        (more ++ rest) := by
  cases written with
  | item _ isGap isSpace first later =>
      cases later with
      | @item _ gap space chars more _ _ isNextGap isNextSpace second later =>
          refine ⟨more, later, ?_⟩
          simp only [List.append_assoc] at left
          obtain ⟨start, next, left⟩ := nextItem?_of_writes true isGap isSpace first left
          unfold readDocumentItems
          rw [next, placed, mapError_ok, ok_bind]
          refine (placed_finds (readState_of_writes first isGap_nil left)).bind
            fun table after _ left => ?_
          obtain ⟨start, next, left⟩ :=
            nextItem?_of_writes false isNextGap isNextSpace second left
          dsimp only
          rw [next, placed, mapError_ok, ok_bind]
          exact (readRoot_of_writes second depth (stops_of_items later rest) isGap_nil left).map

theorem readDocumentItems_of_short {items : List Phrase} {depth : Nat}
    (written : Writes (.items true items) chars) (short : items.length < 2)
    (left : cursor.rest = chars ++ rest) :
    Finds (readDocumentItems depth cursor) none rest := by
  unfold readDocumentItems
  cases items with
  | nil =>
      obtain ⟨closed, -⟩ := nextItem?_of_noItem written left
      rw [closed]
      exact ⟨_, rfl⟩
  | cons state items =>
      rw [List.length_cons] at short
      obtain rfl : items = [] := List.eq_nil_of_length_eq_zero (by omega)
      cases written with
      | item _ isGap isSpace first later =>
          simp only [List.append_assoc] at left
          obtain ⟨start, next, left⟩ := nextItem?_of_writes true isGap isSpace first left
          rw [next, placed, mapError_ok, ok_bind, ← Option.bind_fun_none state.table?]
          refine (placed_finds (readState_of_writes first isGap_nil left)).bind
            fun table after _ left => ?_
          obtain ⟨closed, -⟩ := nextItem?_of_noItem later left
          dsimp only
          rw [closed]
          exact ⟨_, rfl⟩

section Closing

variable {result : Except Fault (Document × Cursor)} {found : Option Document} {middle : List Char}

theorem closed_finds (finds : Finds result found middle)
    (closes : ∀ after : Cursor, after.rest = middle → Leaves (closeList after) rest) :
    Finds (do
      let (document, after) ← result
      return (document, ← closeList after)) found rest := by
  rw [← Option.bind_fun_some found]
  exact finds.bind fun _ after _ left => (closes after left).find fun _ left => .done left

theorem unclosed_finds (finds : Finds result found middle)
    (fails : ∀ after : Cursor, after.rest = middle → ∃ fault, closeList after = .error fault) :
    Finds (do
      let (document, after) ← result
      return (document, ← closeList after)) none rest := by
  rw [← Option.bind_fun_none found]
  refine finds.bind fun _ after _ left => ?_
  obtain ⟨fault, failed⟩ := fails after left
  dsimp only
  rw [failed]
  exact ⟨fault, rfl⟩

end Closing

/-- A document written as a list has two items exactly. -/
theorem readDocumentList_of_writes {items : List Phrase} (depth : Nat)
    (written : Writes (.items true items) chars) (left : cursor.rest = chars ++ rest) :
    Finds (do
      let (document, after) ← settled placeAfterList (readDocumentItems depth cursor)
      return (document, ← closeList after)) (document? (depth + 1) (.list items)) rest := by
  have failsIfShort (short : items.length < 2) : Finds (do
      let (document, after) ← settled placeAfterList (readDocumentItems depth cursor)
      return (document, ← closeList after)) none rest := by
    obtain ⟨fault, failed⟩ := settled_finds (readDocumentItems_of_short written short left)
    exact ⟨fault, by rw [failed]; rfl⟩
  match items, written, failsIfShort with
  | [], _, fails => exact fails (by simp)
  | [_], _, fails => exact fails (by simp)
  | [state, root], written, _ =>
      obtain ⟨more, later, finds⟩ := readDocumentItems_of_writes written left
      refine closed_finds (settled_finds finds) fun after left => ?_
      cases later with
      | noItem _ isGap => exact closeList_leaves isGap (by simpa using left)
  | state :: root :: other :: items, written, _ =>
      obtain ⟨more, later, finds⟩ := readDocumentItems_of_writes written left
      refine unclosed_finds (settled_finds finds) fun after left => ?_
      cases later with
      | item _ isGap => exact closeList_fails isGap (by simpa [lead] using left)

theorem readDocument_of_writes (written : Writes (.phrase phrase) chars) (depth : Nat)
    (isGap : IsGap gap) (left : cursor.rest = gap ++ (chars ++ rest)) :
    Finds (readDocument depth cursor) (phrase.document? depth) rest := by
  have starts := rest_skipGap_of_writes written isGap left
  have refused (notObject : phrase.startsWith '{' = false)
      (notList : phrase.startsWith '[' = false) : Finds (readDocument depth cursor) none rest := by
    unfold readDocument
    dsimp only
    rw [starts, if_neg (head?_ne_of_writes written notObject rest),
      if_neg (head?_ne_of_writes written notList rest)]
    exact refuse_finds _ _ rest
  cases phrase with
  | object members =>
      cases written with
      | @object _ chars inside =>
          have brace : cursor.skipGap.rest.head? = some '{' := by simp [starts]
          unfold readDocument
          simp only [brace, ↓reduceIte]
          cases depth with
          | zero => exact ⟨_, rfl⟩
          | succ depth =>
              exact settled_finds (readDocumentMembers_of_writes inside
                (length_le_stepsFor starts) none none (by simp [starts]))
  | list items =>
      cases written with
      | @list _ chars inside =>
          have bracket : cursor.skipGap.rest.head? = some '[' := by simp [starts]
          unfold readDocument
          simp only [bracket, Option.some.injEq, Char.reduceEq, ↓reduceIte]
          cases depth with
          | zero => exact ⟨_, rfl⟩
          | succ depth => exact readDocumentList_of_writes depth inside (by simp [starts])
  | boolean value => cases value <;> cases depth <;> exact refused rfl rfl
  | null | number | text => cases depth <;> exact refused rfl rfl

/-- A JSON text describes the document that its phrase describes, and none if that describes none. -/
theorem toOption_ofJson {text : String} (isText : phrase.IsText text) :
    (ofJson text).toOption = phrase.document? deepestNesting := by
  obtain ⟨before, chars, behind, isBefore, written, isBehind, parts⟩ := isText
  have opened : (Cursor.ofText text.toList).rest = before ++ (chars ++ behind) := parts
  have finds := readDocument_of_writes written deepestNesting isBefore opened
  unfold ofJson
  cases isDocument : phrase.document? deepestNesting with
  | none =>
      rw [isDocument] at finds
      obtain ⟨fault, failed⟩ := finds
      rw [failed]
      rfl
  | some document =>
      rw [isDocument] at finds
      obtain ⟨after, read, left⟩ := finds
      have skipped : after.skipGap.rest = [] :=
        Cursor.rest_skipGap_of_gap isBehind (by simp [StartsVisibly]) (by simp [left])
      have ended : noMoreText after = .ok () := by simp [noMoreText, skipped]
      rw [read, ok_bind]
      dsimp only
      rw [ended]
      rfl

end Document

end Polyview

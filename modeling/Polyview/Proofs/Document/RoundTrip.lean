import Polyview.Proofs.Document.Nesting
import Polyview.Proofs.Json.Reading

/-!
# Documents read back

A written document is read as the document that it was written from. A document that has been read
before can always be read again; one that was put together otherwise can be read if what is written
for it is not nested too deep.
-/

namespace Polyview

open Json

/-! ## Tables of texts -/

namespace TextTable

theorem insertEntry_last {name text : String} {entries : List (String × String)}
    (before : ∀ entry ∈ entries, entry.1 < name) :
    insertEntry name text entries = entries ++ [(name, text)] := by
  induction entries with
  | nil => rfl
  | cons first rest ih =>
      have firstBefore := before first (by simp)
      have later := ih (fun entry member => before entry (by simp [member]))
      have notLess : ¬ name < first.1 := String.lt_asymm firstBefore
      have unequal : name ≠ first.1 := fun equal => String.lt_irrefl name (equal ▸ firstBefore)
      simp [insertEntry, notLess, unequal, later]

/-- The members that a table is written as. -/
def members (entries : List (String × String)) : List (String × Value) :=
  entries.map fun entry => (entry.1, .text entry.2)

end TextTable

namespace Document

@[simp]
theorem placed_ok {α : Type} (value : α) : placed (.ok value) = .ok value :=
  rfl

theorem readPlainText_written {cursor : Cursor} {text : String} {gap rest : List Char}
    (isGap : IsGap gap) (left : cursor.rest = gap ++ (writtenText text ++ rest)) :
    Yields (readPlainText cursor) text rest := by
  have found := Cursor.rest_skipGap_of_gap isGap (startsVisibly_of_spells (.text text) rest) left
  have quote : cursor.skipGap.rest.head? = some '"' := by simp [found, writtenText]
  simpa only [readPlainText, quote, ↓reduceIte] using readText_written found

/-- The entries of a table are read one after another, each behind all that are known. -/
theorem readEntries_of_spells {entries : List (String × String)} {whole table : TextTable}
    (remaining : whole.entries = table.entries ++ entries) {isFirst : Bool} {chars : List Char}
    (spelled : Spells (.members isFirst (TextTable.members entries)) chars) {fuel : Nat}
    (enough : chars.length ≤ fuel) {cursor : Cursor} {rest : List Char}
    (left : cursor.rest = chars ++ rest) :
    Yields (readEntries fuel isFirst table cursor) whole rest := by
  induction entries generalizing table isFirst chars fuel cursor with
  | nil =>
      obtain ⟨fuel, rfl⟩ := exists_step_of_spells fuel spelled enough
      cases spelled with
      | @noMember _ gap isGap =>
          have closed : cursor.rest = gap ++ '}' :: rest := by simpa using left
          have closing := Cursor.rest_skipGap_of_gap isGap
            (by simp [StartsVisibly, Cursor.isGap]) closed
          rw [readEntries, nextName?_closed isFirst isGap closed]
          have complete : table = whole := by
            cases table
            cases whole
            simpa using remaining.symm
          exact complete ▸ .done (by simp [closing])
  | cons entry entries ih =>
      obtain ⟨name, text⟩ := entry
      obtain ⟨fuel, rfl⟩ := exists_step_of_spells fuel spelled enough
      have ordered := whole.inOrder
      rw [remaining] at ordered
      have last : (table.insert name text).entries = table.entries ++ [(name, text)] :=
        TextTable.insertEntry_last fun entry member =>
          (List.pairwise_append.1 ordered).2.2 entry member (name, text) (by simp)
      cases spelled with
      | member _ _ isGap isSpace first later =>
          cases first
          obtain ⟨start, next, behind⟩ :=
            nextName?_open isFirst isGap (by simpa only [List.append_assoc] using left)
          rw [readEntries, next]
          refine (readColon_leaves isGap_nil behind).bind fun colon behind => ?_
          refine (readPlainText_written isSpace behind).bind fun middle behind => ?_
          simp only [List.length_append, List.length_cons] at enough
          have extended : whole.entries = (table.insert name text).entries ++ entries := by
            simp [remaining, last]
          exact ih extended later (by omega) behind

theorem readState_of_spells (state : TextTable) {chars : List Char}
    (spelled : Spells (.value (.object (TextTable.members state.entries))) chars)
    {cursor : Cursor} {gap rest : List Char} (isGap : IsGap gap)
    (left : cursor.rest = gap ++ (chars ++ rest)) : Yields (readState cursor) state rest := by
  have found := Cursor.rest_skipGap_of_gap isGap (startsVisibly_of_spells spelled rest) left
  cases spelled with
  | @object _ chars inside =>
      have brace : cursor.skipGap.rest.head? = some '{' := by simp [found]
      have enough : chars.length ≤ stepsFor cursor.skipGap := by
        simp [stepsFor, found]
        omega
      simp only [readState, brace, ↓reduceIte]
      exact readEntries_of_spells (by simp [TextTable.empty]) inside enough (by simp [found])

/-! ## Roots -/

theorem readKind_written {cursor : Cursor} {kind : NodeKind} {gap rest : List Char}
    (isGap : IsGap gap) (left : cursor.rest = gap ++ (writtenText kind.word ++ rest)) :
    Yields (readKind cursor) kind rest := by
  have found := Cursor.rest_skipGap_of_gap isGap
    (startsVisibly_of_spells (.text kind.word) rest) left
  have quote : cursor.skipGap.rest.head? = some '"' := by simp [found, writtenText]
  simp only [readKind, quote, ↓reduceIte]
  refine (readText_written found).bind fun after behind => ?_
  rw [Node.ofWord_word]
  exact .done behind

/-- The members of the root behind its kind are read as they are. -/
theorem readRootMembers_of_spells {members : List (String × Value)} (kind : NodeKind)
    (untyped : ∀ member ∈ members, member.1 ≠ "type") {isFirst : Bool} {chars : List Char}
    (spelled : Spells (.members isFirst members) chars) {fuel depth : Nat}
    (enough : chars.length ≤ fuel) (shallow : Value.nestingOfMembers members ≤ depth)
    {cursor : Cursor} {rest : List Char} (left : cursor.rest = chars ++ rest) :
    ∃ after : Cursor, readRootMembers fuel depth isFirst (some kind) cursor =
      .ok (kind, members, after) ∧ after.rest = rest := by
  induction members generalizing isFirst chars fuel cursor with
  | nil =>
      obtain ⟨fuel, rfl⟩ := exists_step_of_spells fuel spelled enough
      cases spelled with
      | @noMember _ gap isGap =>
          have closed : cursor.rest = gap ++ '}' :: rest := by simpa using left
          have closing := Cursor.rest_skipGap_of_gap isGap
            (by simp [StartsVisibly, Cursor.isGap]) closed
          unfold readRootMembers
          rw [nextName?_closed isFirst isGap closed]
          exact ⟨_, rfl, by simp [closing]⟩
  | cons member members ih =>
      obtain ⟨name, value⟩ := member
      obtain ⟨fuel, rfl⟩ := exists_step_of_spells fuel spelled enough
      have notType : name ≠ "type" := untyped (name, value) (by simp)
      obtain ⟨valueShallow, laterShallow⟩ := Nat.max_le.1 shallow
      cases spelled with
      | @member _ _ gap space chars more _ _ isGap isSpace first later =>
          obtain ⟨start, next, behind⟩ :=
            nextName?_open isFirst isGap (by simpa only [List.append_assoc] using left)
          obtain ⟨colon, colonRead, behind⟩ := readColon_leaves isGap_nil behind
          obtain ⟨middle, valueRead, behind⟩ :=
            readValue_of_spells first valueShallow isSpace (by simpa using behind)
          have enoughLater : more.length ≤ fuel := by
            simp only [List.length_append, List.length_cons] at enough
            omega
          obtain ⟨after, laterRead, behind⟩ :=
            ih (fun member isLater => untyped member (by simp [isLater])) later enoughLater
              laterShallow behind
          refine ⟨after, ?_, behind⟩
          unfold readRootMembers
          simp [next, notType, colonRead, valueRead, laterRead]

theorem readRoot_of_spells {root : Node} {chars : List Char}
    (spelled : Spells (.value root.toValue) chars) {depth : Nat}
    (shallow : root.toValue.nesting ≤ depth) {cursor : Cursor} {gap rest : List Char}
    (isGap : IsGap gap) (left : cursor.rest = gap ++ (chars ++ rest)) :
    Yields (readRoot depth cursor) root rest := by
  have found := Cursor.rest_skipGap_of_gap isGap (startsVisibly_of_spells spelled rest) left
  rw [Node.toValue_eq_object] at spelled shallow
  simp only [Value.nesting, Value.nestingOfMembers, Nat.zero_max] at shallow
  obtain ⟨depth, rfl⟩ := Nat.exists_eq_add_of_le' (Nat.le_of_add_left_le shallow)
  cases spelled with
  | @object _ chars inside =>
      have brace : cursor.skipGap.rest.head? = some '{' := by simp [found]
      have opened : (cursor.skipGap.skip 1).rest = chars ++ rest := by simp [found]
      have enough : chars.length < stepsFor cursor.skipGap := by
        simp [stepsFor, found]
        omega
      cases inside with
      | @member _ _ gap space chars more _ _ isGap isSpace first later =>
          cases first
          obtain ⟨start, next, behind⟩ :=
            nextName?_open true isGap (by simpa only [List.append_assoc] using opened)
          obtain ⟨colon, colonRead, behind⟩ := readColon_leaves isGap_nil behind
          obtain ⟨middle, kindRead, behind⟩ := readKind_written isSpace behind
          obtain ⟨fuel, steps⟩ : ∃ fuel, stepsFor cursor.skipGap = fuel + 1 :=
            Nat.exists_eq_add_of_le' (Nat.zero_lt_of_lt enough)
          have enoughLater : more.length ≤ fuel := by
            simp only [List.length_append, List.length_cons] at enough
            omega
          obtain ⟨after, laterRead, behind⟩ := readRootMembers_of_spells root.kind
            root.name_ne_type_of_mem_fields later enoughLater (Nat.le_of_succ_le_succ shallow)
            behind
          refine ⟨after, ?_, behind⟩
          simp only [readRoot, brace, ↓reduceIte, steps]
          unfold readRootMembers
          simp [next, colonRead, kindRead, laterRead, settled, Node.ofMembers_fields]

/-! ## Documents -/

/-- Behind the table, if it is written, the members of a document are its root alone. -/
theorem readDocumentMembers_of_root {root : Node} (state : Option TextTable) {isFirst : Bool}
    {chars : List Char} (spelled : Spells (.members isFirst [("root", root.toValue)]) chars)
    {fuel depth : Nat} (enough : chars.length ≤ fuel) (shallow : root.toValue.nesting ≤ depth)
    {cursor : Cursor} {rest : List Char} (left : cursor.rest = chars ++ rest) :
    Yields (readDocumentMembers fuel depth isFirst state none cursor)
      ⟨state.getD .empty, root⟩ rest := by
  cases spelled with
  | @member _ _ gap space chars more _ _ isGap isSpace first later =>
      obtain ⟨start, next, behind⟩ :=
        nextName?_open isFirst isGap (by simpa only [List.append_assoc] using left)
      obtain ⟨colon, colonRead, behind⟩ := readColon_leaves isGap_nil behind
      obtain ⟨middle, rootRead, behind⟩ := readRoot_of_spells first shallow isSpace behind
      cases later with
      | @noMember _ gap isGap =>
          obtain ⟨fuel, rfl⟩ : ∃ later, fuel = later + 2 := by
            simp only [List.length_append, List.length_cons] at enough
            exact Nat.exists_eq_add_of_le' (by omega)
          have closed : middle.rest = gap ++ '}' :: rest := by simpa using behind
          have closing := Cursor.rest_skipGap_of_gap isGap
            (by simp [StartsVisibly, Cursor.isGap]) closed
          refine ⟨middle.skipGap.skip 1, ?_, by simp [closing]⟩
          unfold readDocumentMembers
          simp only [next, placed_ok, ok_bind, colonRead, rootRead]
          unfold readDocumentMembers
          simp [nextName?_closed false isGap closed]

/-- The members of a document. -/
def members (document : Document) : List (String × Value) :=
  let root := [("root", document.root.toValue)]
  if document.state.entries.isEmpty then root
  else ("state", .object (TextTable.members document.state.entries)) :: root

theorem toValue_eq_object (document : Document) : document.toValue = .object document.members := by
  unfold toValue members
  split_ifs <;> rfl

theorem readDocumentMembers_of_spells {document : Document} {chars : List Char}
    (spelled : Spells (.members true document.members) chars) {fuel depth : Nat}
    (enough : chars.length ≤ fuel) (shallow : Value.nestingOfMembers document.members ≤ depth)
    {cursor : Cursor} {rest : List Char} (left : cursor.rest = chars ++ rest) :
    Yields (readDocumentMembers fuel depth true none none cursor) document rest := by
  obtain ⟨⟨entries, inOrder⟩, root⟩ := document
  unfold members at spelled shallow
  split_ifs at spelled shallow with stateless
  · simp only [List.isEmpty_iff] at stateless
    subst stateless
    exact readDocumentMembers_of_root none spelled enough (Nat.max_le.1 shallow).1 left
  · obtain ⟨fuel, rfl⟩ := exists_step_of_spells fuel spelled enough
    have rootShallow := (Nat.max_le.1 (Nat.max_le.1 shallow).2).1
    cases spelled with
    | @member _ _ gap space chars more _ _ isGap isSpace first later =>
        obtain ⟨start, next, behind⟩ :=
          nextName?_open true isGap (by simpa only [List.append_assoc] using left)
        obtain ⟨colon, colonRead, behind⟩ := readColon_leaves isGap_nil behind
        obtain ⟨middle, stateRead, behind⟩ :=
          readState_of_spells ⟨entries, inOrder⟩ first isSpace behind
        have enoughLater : more.length ≤ fuel := by
          simp only [List.length_append, List.length_cons] at enough
          omega
        obtain ⟨after, read, behind⟩ := readDocumentMembers_of_root
          (some ⟨entries, inOrder⟩) later enoughLater rootShallow behind
        refine ⟨after, ?_, behind⟩
        unfold readDocumentMembers
        simp [next, colonRead, stateRead, read]

theorem readDocument_of_spells {document : Document} {chars : List Char}
    (spelled : Spells (.value document.toValue) chars) {depth : Nat}
    (shallow : document.toValue.nesting ≤ depth) {cursor : Cursor} {rest : List Char}
    (left : cursor.rest = chars ++ rest) :
    Yields (readDocument depth cursor) document rest := by
  have found := Cursor.rest_skipGap_of_gap isGap_nil (startsVisibly_of_spells spelled rest) left
  rw [toValue_eq_object] at spelled shallow
  simp only [Value.nesting] at shallow
  obtain ⟨depth, rfl⟩ := Nat.exists_eq_add_of_le' (Nat.le_of_add_left_le shallow)
  cases spelled with
  | @object _ chars inside =>
      have brace : cursor.skipGap.rest.head? = some '{' := by simp [found]
      have opened : (cursor.skipGap.skip 1).rest = chars ++ rest := by simp [found]
      have enough : chars.length ≤ stepsFor cursor.skipGap := by
        simp [stepsFor, found]
        omega
      obtain ⟨after, read, behind⟩ :=
        readDocumentMembers_of_spells inside enough (Nat.le_of_succ_le_succ shallow) opened
      refine ⟨after, ?_, behind⟩
      simp [readDocument, brace, read, settled]

/-- The text that spells a document is read as that document, with blanks behind it as well. -/
theorem ofJson_of_spells_append {document : Document} {chars gap : List Char}
    (spelled : Spells (.value document.toValue) chars)
    (shallow : document.toValue.nesting ≤ deepestNesting) (isGap : IsGap gap) :
    ofJson (String.ofList (chars ++ gap)) = .ok document := by
  have opened : (Cursor.ofText (chars ++ gap)).rest = chars ++ gap := rfl
  obtain ⟨after, read, behind⟩ := readDocument_of_spells spelled shallow opened
  have skipped : after.skipGap.rest = [] :=
    Cursor.rest_skipGap_of_gap isGap (by simp [StartsVisibly]) (by simp [behind])
  have ended : noMoreText after = .ok () := by
    simp [noMoreText, skipped]
  simp [ofJson, read, ended]

theorem ofJson_of_spells {document : Document} {chars : List Char}
    (spelled : Spells (.value document.toValue) chars)
    (shallow : document.toValue.nesting ≤ deepestNesting) :
    ofJson (String.ofList chars) = .ok document := by
  have read := ofJson_of_spells_append spelled shallow isGap_nil
  rwa [List.append_nil] at read

theorem haveNumberless_texts (entries : List (String × String)) :
    Value.haveNumberless (TextTable.members entries) = true := by
  induction entries with
  | nil => rfl
  | cons entry rest ih =>
      simpa [TextTable.members, Value.haveNumberless, Value.isNumberless] using ih

theorem isNumberless_toValue (document : Document) : document.toValue.isNumberless = true := by
  rw [toValue_eq_object]
  unfold members
  split_ifs <;>
    simp [Value.isNumberless, Value.haveNumberless, Node.isNumberless_toValue, haveNumberless_texts]

theorem ofJson_pretty_append_newLine (document : Document)
    (shallow : document.toValue.nesting ≤ deepestNesting) :
    ofJson (document.pretty ++ "\n") = .ok document := by
  have spelled := Value.spells_prettyChars _ document.isNumberless_toValue 0
  have read := ofJson_of_spells_append spelled shallow (isGap_newLine 0)
  rwa [String.ofList_append] at read

/-- Both texts of a document whose nesting stays within the limit of the reader are read as the
document. Every document that a text describes is such a document, however that text was
spelled. -/
theorem written_document_reads_back :
    (∀ (text : String) (document : Document), ofJson text = .ok document →
      ofJson document.compact = .ok document ∧ ofJson document.pretty = .ok document) ∧
    (∀ document : Document, document.toValue.nesting ≤ deepestNesting →
      ofJson document.compact = .ok document ∧ ofJson document.pretty = .ok document) := by
  have readsBack (document : Document) (shallow : document.toValue.nesting ≤ deepestNesting) :
      ofJson document.compact = .ok document ∧ ofJson document.pretty = .ok document :=
    ⟨ofJson_of_spells (Value.spells_compactChars _ document.isNumberless_toValue) shallow,
      ofJson_of_spells (Value.spells_prettyChars _ document.isNumberless_toValue 0) shallow⟩
  exact ⟨fun _ document read => readsBack document (nesting_of_ofJson read), readsBack⟩

/-- A stack without children, written without its list, and a quote in a title. -/
theorem written_document_reads_back_sparse :
    ofJson "[\x7b\x7d,[\"vstack\",[\x7b\"type\":\"vstack\"\x7d,[\"text_field\",\"\\\"\",\"\"]]]]" =
        .ok ⟨.empty, .stack [.stack [], .field "\"" (some "") ""]⟩ ∧
      (⟨.empty, .stack [.stack [], .field "\"" (some "") ""]⟩ : Document).toValue.nesting ≤
        deepestNesting ∧
      ofJson (⟨.empty, .stack [.stack [], .field "\"" (some "") ""]⟩ : Document).compact =
        .ok ⟨.empty, .stack [.stack [], .field "\"" (some "") ""]⟩ ∧
      ofJson (⟨.empty, .stack [.stack [], .field "\"" (some "") ""]⟩ : Document).pretty =
        .ok ⟨.empty, .stack [.stack [], .field "\"" (some "") ""]⟩ := by
  have read : ofJson
      "[\x7b\x7d,[\"vstack\",[\x7b\"type\":\"vstack\"\x7d,[\"text_field\",\"\\\"\",\"\"]]]]" =
        .ok ⟨.empty, .stack [.stack [], .field "\"" (some "") ""]⟩ := by
    -- The characters are spelled out first; the reader then computes on them.
    simp only [ofJson, String.reduceToList]
    rfl
  have shallow : (⟨.empty, .stack [.stack [], .field "\"" (some "") ""]⟩ :
      Document).toValue.nesting ≤ deepestNesting := by
    decide
  exact ⟨read, shallow, (written_document_reads_back.1 _ _ read).1,
    (written_document_reads_back.2 _ shallow).2⟩

end Document

end Polyview

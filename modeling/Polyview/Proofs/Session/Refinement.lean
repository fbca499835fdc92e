import Polyview.Proofs.Session.Account
import Polyview.Proofs.Store

/-!
# The history behind a session

A session answers every operation as the account of the program does, so its cells hold the history
of their writes, however they are reached. Two holders reach one cell exactly if the account has one
number for them.
-/

namespace Polyview

theorem Session.toOption_fieldBinding (session : Session) (name : String) (path : List Nat) :
    (session.fieldBinding name path).toOption =
      (session.view? name).bind fun view => view.binding? path := by
  rw [Session.fieldBinding]
  cases session.view? name with
  | none => rfl
  | some view =>
      rw [Option.bind_some, Option.bind_some, View.binding?]
      cases view.at? path with
      | none => rfl
      | some found => cases found <;> rfl

namespace Account

def bindingTo (number : Nat) : Binding := .cell ⟨number⟩

theorem bindingTo_injective : Function.Injective bindingTo := by
  intro number other same
  cases same
  rfl

/-- A sketch holds no cell that is yet to come. -/
def Knows (account : Account) (sketch : Sketch Nat) : Prop :=
  ∀ {path number}, sketch.held? path = some number → number < account.created

/-- A session is as its account has it: cells hold the texts last written to them, names stand for
the same cells, and no name stands for a cell that is yet to come. -/
structure Describes (account : Account) (session : Session) : Prop where
  created : session.store.texts.length = account.created
  current : ∀ number, session.store.read ⟨number⟩ = account.current number
  cells : ∀ name, session.cell? name = (account.cells name).map Cell.mk
  bindings : ∀ name, session.binding? name = (account.bindings name).map bindingTo
  views : ∀ name, session.view? name = (account.views name).map fun sketch => sketch.view bindingTo
  knownCells : ∀ {name number}, account.cells name = some number → number < account.created
  knownBindings : ∀ {name number}, account.bindings name = some number → number < account.created
  knownViews : ∀ {name sketch}, account.views name = some sketch → account.Knows sketch

theorem describes_empty : empty.Describes .empty where
  created := rfl
  current _ := rfl
  cells _ := rfl
  bindings _ := rfl
  views _ := rfl
  knownCells isNumber := nomatch isNumber
  knownBindings isNumber := nomatch isNumber
  knownViews isNamed := nomatch isNamed

namespace Describes

variable {account : Account} {session : Session}

theorem known (describes : account.Describes session) (holder : Holder) {number : Nat}
    (isNumber : account.numberOf? holder = some number) : number < account.created := by
  cases holder with
  | cell name => exact describes.knownCells isNumber
  | binding name => exact describes.knownBindings isNumber
  | field view path =>
      obtain ⟨sketch, isNamed, isHeld⟩ := Option.bind_eq_some_iff.mp isNumber
      exact describes.knownViews isNamed isHeld

theorem fieldBinding (describes : account.Describes session) (view : String) (path : List Nat) :
    (session.fieldBinding view path).toOption =
      (account.numberOf? (.field view path)).map bindingTo := by
  rw [Session.toOption_fieldBinding, describes.views, numberOf?]
  cases account.views view with
  | none => rfl
  | some sketch => exact Sketch.binding?_view bindingTo path sketch

theorem bindingOf? (describes : account.Describes session) (holder : Holder) :
    session.bindingOf? holder = (account.numberOf? holder).map bindingTo := by
  cases holder with
  | cell name =>
      rw [Session.bindingOf?, describes.cells, Option.map_map]
      rfl
  | binding name => exact describes.bindings name
  | field view path => exact describes.fieldBinding view path

theorem read? (describes : account.Describes session) (holder : Holder) :
    session.read? holder = (account.numberOf? holder).map account.current := by
  rw [Session.read?_eq, describes.bindingOf?, Option.map_map]
  congr 1
  funext number
  exact describes.current number

theorem answer (describes : account.Describes session) (operation : Operation) :
    session.answer operation = account.answer operation := by
  cases operation with
  | read holder => exact describes.read? holder
  | render name style =>
      have texts : (fun number => (bindingTo number).read session.store) = account.current := by
        funext number
        exact describes.current number
      simp only [Session.answer, Account.answer, describes.views, Option.map_map,
        Function.comp_def, ← View.render_shown, Sketch.shown_view, texts]
  | _ => rfl

/-! ## One operation -/

theorem record (describes : account.Describes session) {number : Nat}
    (known : number < account.created) (text : String) :
    (account.record number text).Describes
      { session with store := session.store.write ⟨number⟩ text } where
  created := by rw [Store.length_texts_write, describes.created]; rfl
  current other := by
    by_cases same : number = other
    · subst same
      rw [current_record_self, Store.read_write_self (by rw [describes.created]; exact known)]
    · rw [current_record_of_ne same, ← describes.current other,
        Store.read_write_of_ne (by simpa using same)]
  cells := describes.cells
  bindings := describes.bindings
  views := describes.views
  knownCells := describes.knownCells
  knownBindings := describes.knownBindings
  knownViews := describes.knownViews

theorem create (describes : account.Describes session) (text : String) :
    (account.create text).Describes
      { session with store := (session.store.create text).2 } where
  created := by rw [Store.length_texts_create, describes.created]; rfl
  current other := by
    have newCell : (session.store.create text).1 = ⟨account.created⟩ := by
      rw [← describes.created]
      rfl
    change (session.store.create text).2.read ⟨other⟩ =
      (account.record account.created text).current other
    by_cases same : account.created = other
    · subst same
      rw [current_record_self, ← newCell, Store.read_create_self]
    · rw [current_record_of_ne same, ← describes.current other, Store.read_create_of_ne]
      rw [newCell]
      simpa using Ne.symm same
  cells := describes.cells
  bindings := describes.bindings
  views := describes.views
  knownCells isNumber := Nat.lt_succ_of_lt (describes.knownCells isNumber)
  knownBindings isNumber := Nat.lt_succ_of_lt (describes.knownBindings isNumber)
  knownViews isNamed _ _ isHeld := Nat.lt_succ_of_lt (describes.knownViews isNamed isHeld)

theorem nameBinding (describes : account.Describes session) {number : Nat}
    (known : number < account.created) (name : String) :
    (account.nameBinding name number).Describes
      (session.addBinding name (bindingTo number)) where
  created := describes.created
  current := describes.current
  cells := describes.cells
  bindings other := by
    rw [Session.binding?_addBinding, bindings_nameBinding]
    split
    · rfl
    · exact describes.bindings other
  views := describes.views
  knownCells := describes.knownCells
  knownBindings := by
    intro other otherNumber isNumber
    rw [bindings_nameBinding] at isNumber
    split at isNumber
    · cases isNumber
      exact known
    · exact describes.knownBindings isNumber
  knownViews := describes.knownViews

theorem nameView (describes : account.Describes session) (sketch : Sketch Nat)
    (known : account.Knows sketch) (name : String) :
    (account.nameView name sketch).Describes (session.addView name (sketch.view bindingTo)) where
  created := describes.created
  current := describes.current
  cells := describes.cells
  bindings := describes.bindings
  views other := by
    rw [Session.view?_addView, views_nameView]
    split
    · rfl
    · exact describes.views other
  knownCells := describes.knownCells
  knownBindings := describes.knownBindings
  knownViews := by
    intro other otherSketch isNamed
    rw [views_nameView] at isNamed
    split at isNamed
    · cases isNamed
      exact known
    · exact describes.knownViews isNamed

theorem createCell (describes : account.Describes session) (name text : String) :
    ((account.create text).nameCell name (some account.created)).Describes
      (session.addCell name text) where
  created := (describes.create text).created
  current := (describes.create text).current
  cells other := by
    rw [Session.cell?_addCell, cells_nameCell]
    split
    · rw [← describes.created]
      rfl
    · exact describes.cells other
  bindings := describes.bindings
  views := describes.views
  knownCells := by
    intro other number isNumber
    rw [cells_nameCell] at isNumber
    split at isNumber
    · cases isNumber
      exact Nat.lt_succ_self _
    · exact (describes.create text).knownCells isNumber
  knownBindings := (describes.create text).knownBindings
  knownViews := (describes.create text).knownViews

theorem dropCell (describes : account.Describes session) (name : String) :
    (account.nameCell name none).Describes (session.dropCell name) where
  created := describes.created
  current := describes.current
  cells other := by
    rw [Session.cell?_dropCell, cells_nameCell]
    split
    · rfl
    · exact describes.cells other
  bindings := describes.bindings
  views := describes.views
  knownCells := by
    intro other number isNumber
    rw [cells_nameCell] at isNumber
    split at isNumber
    · cases isNumber
    · exact describes.knownCells isNumber
  knownBindings := describes.knownBindings
  knownViews := describes.knownViews

/-- The named views of a list are the views of its sketches. -/
theorem mapM_view? (describes : account.Describes session) (names : List String) :
    names.mapM session.view? =
      (names.mapM account.views).map fun sketches => sketches.map (Sketch.view bindingTo) := by
  induction names with
  | nil => rfl
  | cons name rest ih =>
      rw [List.mapM_cons, List.mapM_cons, ih, describes.views]
      cases account.views name with
      | none => rfl
      | some sketch => cases rest.mapM account.views <;> rfl

theorem exists_name_of_mapM_views {names : List String} {sketches : List (Sketch Nat)}
    (named : names.mapM account.views = some sketches) :
    ∀ sketch ∈ sketches, ∃ name, account.views name = some sketch := by
  induction names generalizing sketches with
  | nil =>
      cases named
      simp
  | cons name rest ih =>
      simp only [List.mapM_cons, Option.bind_eq_bind, Option.bind_eq_some_iff, Option.pure_def,
        Option.some.injEq] at named
      obtain ⟨first, isFirst, later, areLater, rfl⟩ := named
      exact List.forall_mem_cons.mpr ⟨⟨name, isFirst⟩, ih areLater⟩

/-- What a stack of named views holds, one of the views holds. -/
theorem knows_stack (describes : account.Describes session) {names : List String}
    {sketches : List (Sketch Nat)} (named : names.mapM account.views = some sketches) :
    account.Knows (.stack sketches) := by
  intro path number isHeld
  cases path with
  | nil => cases isHeld
  | cons position path =>
      rw [Sketch.held?_cons, Option.bind_eq_some_iff] at isHeld
      obtain ⟨child, isChild, isHeld⟩ := isHeld
      obtain ⟨name, isNamed⟩ :=
        exists_name_of_mapM_views named child (List.mem_of_getElem? isChild)
      exact describes.knownViews isNamed isHeld

/-- What a part of a named view holds, the view holds. -/
theorem knows_part (describes : account.Describes session) {name : String} {path : List Nat}
    {part : Sketch Nat}
    (isPart : ((account.views name).bind fun sketch => sketch.at? path) = some part) :
    account.Knows part := by
  intro further number isHeld
  obtain ⟨sketch, isNamed, isPart⟩ := Option.bind_eq_some_iff.mp isPart
  apply describes.knownViews isNamed
  rw [Sketch.held?_append, isPart]
  exact isHeld

theorem perform (describes : account.Describes session) (operation : Operation) :
    (account.after operation).Describes (session.perform operation) := by
  cases operation with
  | createCell name text => exact describes.createCell name text
  | createBinding name text =>
      have newBinding : bindingTo account.created = .cell (session.store.create text).1 := by
        rw [← describes.created]
        rfl
      have named := (describes.create text).nameBinding (Nat.lt_succ_self _) name
      rw [newBinding] at named
      exact named
  | dropCell name => exact describes.dropCell name
  | bind name holder =>
      rw [Account.after, Session.perform, describes.bindingOf?]
      cases isNumber : account.numberOf? holder with
      | none => exact describes
      | some number => exact describes.nameBinding (describes.known holder isNumber) name
  | write holder text =>
      rw [Account.after, Session.perform, Session.writeThrough_eq, describes.bindingOf?]
      cases isNumber : account.numberOf? holder with
      | none => exact describes
      | some number => exact describes.record (describes.known holder isNumber) text
  | update name change =>
      rw [Account.after, Session.perform, describes.cells]
      cases isNumber : account.cells name with
      | none => exact describes
      | some number =>
          simp only [Option.map_some, ← describes.current number]
          exact describes.record (describes.known (.cell name) isNumber) _
  | read holder => exact describes
  | addLabel name content =>
      exact describes.nameView _ (by simp [Knows]) name
  | addLabelFrom name holder =>
      rw [Account.after, Session.perform, describes.bindingOf?]
      cases isNumber : account.numberOf? holder with
      | none => exact describes
      | some number =>
          have isRead : (bindingTo number).read session.store = account.current number :=
            describes.current number
          simp only [Option.map_some, ← isRead]
          exact describes.nameView _ (by simp [Knows]) name
  | addField name title holder =>
      rw [Account.after, Session.perform, describes.bindingOf?]
      cases isNumber : account.numberOf? holder with
      | none => exact describes
      | some number =>
          apply describes.nameView (.field title number)
          intro path other isHeld
          rw [Sketch.held?_field] at isHeld
          split at isHeld
          · cases isHeld
            exact describes.known holder isNumber
          · cases isHeld
  | addStack name children =>
      rw [Account.after, Session.perform, describes.mapM_view?]
      cases named : children.mapM account.views with
      | none => exact describes
      | some sketches =>
          rw [Option.map_some, ← Sketch.viewAll_eq_map]
          exact describes.nameView _ (describes.knows_stack named) name
  | addDescription name text source =>
      exact describes.nameView _ (by simp [Knows]) name
  | copyView name source path =>
      have parts : ((session.view? source).bind fun view => view.at? path) =
          ((account.views source).bind fun sketch => sketch.at? path).map
            (Sketch.view bindingTo) := by
        rw [describes.views]
        cases account.views source with
        | none => rfl
        | some sketch => exact Sketch.at?_view bindingTo path sketch
      rw [Account.after, Session.perform, parts]
      cases isPart : (account.views source).bind fun sketch => sketch.at? path with
      | none => exact describes
      | some part => exact describes.nameView _ (describes.knows_part isPart) name
  | render name style => exact describes

/-- What a whole program does to a session, it does to the account. -/
theorem run (describes : account.Describes session) (operations : List Operation) :
    (operations.foldl Account.after account).Describes
      (operations.foldl Session.perform session) := by
  -- the account describes the session before and after each operation
  induction operations generalizing account session with
  | nil => exact describes
  | cons operation rest ih => exact ih (describes.perform operation)

theorem answersOf (describes : account.Describes session) (operations : List Operation) :
    Polyview.answersOf Session.perform Session.answer session operations =
      Polyview.answersOf Account.after Account.answer account operations := by
  induction operations generalizing account session with
  | nil => rfl
  | cons operation rest ih =>
      rw [Polyview.answersOf, Polyview.answersOf, describes.answer operation,
        ih (describes.perform operation)]

end Describes

/-! ## Aliases -/

/-- An operation that writes through a holder adds a write to the holder's cell. -/
theorem after_of_target? {operation : Operation} {holder : Holder}
    (isTarget : operation.target? = some holder) (account : Account) :
    account.after operation = account ∨ ∃ number text,
      account.numberOf? holder = some number ∧
        account.after operation = account.record number text := by
  cases operation with
  | write target text =>
      obtain rfl := Option.some.inj isTarget
      rw [after]
      cases isNumber : account.numberOf? target with
      | none => exact .inl rfl
      | some number => exact .inr ⟨number, text, rfl, rfl⟩
  | update name change =>
      obtain rfl := Option.some.inj isTarget
      rw [after, numberOf?]
      cases isNumber : account.cells name with
      | none => exact .inl rfl
      | some number => exact .inr ⟨number, _, rfl, rfl⟩
  | _ => cases isTarget

/-- An operation that creates a cell gives it the next number. -/
theorem numberOf?_after_of_created? {operation : Operation} {made : Holder}
    (isCreated : operation.created? = some made) (account : Account) :
    (account.after operation).numberOf? made = some account.created := by
  cases operation with
  | createCell name text =>
      obtain rfl := Option.some.inj isCreated
      rw [after, numberOf?, cells_nameCell, if_pos rfl]
  | createBinding name text =>
      obtain rfl := Option.some.inj isCreated
      rw [after, numberOf?, bindings_nameBinding, if_pos rfl]
  | _ => cases isCreated

namespace Describes

variable {account : Account} {session : Session}

theorem bindingOf?_eq_iff (describes : account.Describes session) (holder other : Holder) :
    session.bindingOf? holder = session.bindingOf? other ↔
      account.numberOf? holder = account.numberOf? other := by
  rw [describes.bindingOf?, describes.bindingOf?]
  exact (Option.map_injective bindingTo_injective).eq_iff

theorem read?_perform_of_ne (describes : account.Describes session) {holder other : Holder}
    (distinct : account.numberOf? holder ≠ account.numberOf? other) {operation : Operation}
    (isTarget : operation.target? = some holder) :
    (session.perform operation).read? other = session.read? other := by
  have later := describes.perform operation
  rw [later.read?, describes.read?]
  rcases after_of_target? isTarget account with same | ⟨number, text, isNumber, recorded⟩
  · rw [same]
  · have sameNumber : (account.record number text).numberOf? other = account.numberOf? other := by
      cases other <;> rfl
    rw [recorded, sameNumber]
    cases isOther : account.numberOf? other with
    | none => rfl
    | some otherNumber =>
        have numbers : number ≠ otherNumber := by
          rintro rfl
          exact distinct (isNumber.trans isOther.symm)
        simp only [Option.map_some, current_record_of_ne numbers]

theorem bindingOf?_ne_of_created? (describes : account.Describes session) {operation : Operation}
    {made : Holder} (isCreated : operation.created? = some made) (holder : Holder) :
    session.bindingOf? holder ≠ (session.perform operation).bindingOf? made := by
  have later := describes.perform operation
  rw [later.bindingOf?, describes.bindingOf?, numberOf?_after_of_created? isCreated]
  intro same
  have sameNumber := Option.map_injective bindingTo_injective same
  exact Nat.lt_irrefl _ (describes.known holder sameNumber)

end Describes

/-- Every operation of a program is answered from the history of writes: a text that is read is the
one last written to the cell, through whatever it was written, and a rendering shows these texts in
its fields. Holders share a cell exactly if it was created once for both. Writing through one of
them changes nothing for a holder of another cell, and a new cell has no holder yet. -/
theorem session_follows_history (operations : List Operation) :
    answersOf Session.perform Session.answer .empty operations =
      answersOf Account.after Account.answer .empty operations ∧
    (∀ holder other : Holder,
      let session := operations.foldl Session.perform .empty
      let account := operations.foldl Account.after .empty
      (session.bindingOf? holder = session.bindingOf? other ↔
        account.numberOf? holder = account.numberOf? other) ∧
      (account.numberOf? holder ≠ account.numberOf? other →
        ∀ operation : Operation, operation.target? = some holder →
          (session.perform operation).read? other = session.read? other)) ∧
    ∀ (operation : Operation) (made : Holder), operation.created? = some made →
      ∀ holder : Holder,
        let session := operations.foldl Session.perform .empty
        session.bindingOf? holder ≠ (session.perform operation).bindingOf? made := by
  have describes := describes_empty.run operations
  refine ⟨describes_empty.answersOf operations, ?_, ?_⟩
  · intro holder other
    exact ⟨describes.bindingOf?_eq_iff holder other, fun distinct operation isTarget =>
      describes.read?_perform_of_ne distinct isTarget⟩
  · intro operation made isCreated holder
    exact describes.bindingOf?_ne_of_created? isCreated holder

/-- A text written through a copied binding is read from the cell, and another cell keeps its own. -/
theorem session_follows_history_of_two_cells :
    let operations : List Operation := [.createCell "a" "1", .bind "b" (.cell "a"),
      .createBinding "c" "2", .write (.binding "b") "3", .read (.cell "a")]
    let session := operations.foldl Session.perform .empty
    answersOf Session.perform Session.answer .empty operations =
        [none, none, none, none, some "3"] ∧
      session.bindingOf? (.cell "a") = session.bindingOf? (.binding "b") ∧
      (session.perform (.write (.cell "a") "4")).read? (.binding "c") =
        session.read? (.binding "c") ∧
      session.bindingOf? (.binding "c") ≠
        (session.perform (.createCell "d" "5")).bindingOf? (.cell "d") := by
  obtain ⟨answers, shared, created⟩ := session_follows_history [.createCell "a" "1",
    .bind "b" (.cell "a"), .createBinding "c" "2", .write (.binding "b") "3", .read (.cell "a")]
  have sameCell := (shared (.cell "a") (.binding "b")).1
  have otherCell := (shared (.cell "a") (.binding "c")).2 (by decide)
  refine ⟨answers, sameCell.mpr rfl, ?_, ?_⟩
  · exact otherCell (.write (.cell "a") "4") rfl
  · exact created (.createCell "d" "5") (.cell "d") rfl (.binding "c")

end Account

end Polyview

/-!
# Cells, bindings and the store

The text fields of an interface show text that lives in cells. A store holds the current text of
every cell; cells are never taken away, so a binding outlives whatever created its cell. A binding
is a way to read and to write: directly, with a lead in front of what is read, or fixed, in which
case what is written only goes to a journal.
-/

namespace Polyview

/-- A place that holds a text. -/
structure Cell where
  index : Nat
  deriving DecidableEq, Repr

/-- A place that collects the texts written to a fixed binding. -/
structure Journal where
  index : Nat
  deriving DecidableEq, Repr

/-- The current text of every cell and the contents of every journal. -/
structure Store where
  texts : List String
  journals : List (List String)
  deriving DecidableEq, Repr

namespace Store

def empty : Store := ⟨[], []⟩

/-- A new cell that holds `text`. -/
def create (store : Store) (text : String) : Cell × Store :=
  (⟨store.texts.length⟩, { store with texts := store.texts ++ [text] })

def read (store : Store) (cell : Cell) : String := store.texts[cell.index]?.getD ""

/-- The store after a cell has been given another text. -/
def write (store : Store) (cell : Cell) (text : String) : Store :=
  { store with texts := store.texts.set cell.index text }

def openJournal (store : Store) : Journal × Store :=
  (⟨store.journals.length⟩, { store with journals := store.journals ++ [[]] })

def entries (store : Store) (journal : Journal) : List String :=
  store.journals[journal.index]?.getD []

/-- The store after one more text has gone to a journal. -/
def record (store : Store) (journal : Journal) (text : String) : Store :=
  { store with journals := store.journals.set journal.index (store.entries journal ++ [text]) }

end Store

/-- A way to read a text and to replace it. -/
inductive Binding where
  /-- Reads and writes a cell. -/
  | cell (place : Cell)
  /-- Reads with a lead in front and writes what it is given. -/
  | led (lead : String) (inner : Binding)
  /-- Always reads the same text. What is written goes to a journal. -/
  | fixed (text : String) (journal : Journal)
  deriving DecidableEq, Repr

namespace Binding

def read (store : Store) : Binding → String
  | .cell place => store.read place
  | .led lead inner => lead ++ inner.read store
  | .fixed text _ => text

/-- The store after a text has been written through a binding. -/
def write (store : Store) (text : String) : Binding → Store
  | .cell place => store.write place text
  | .led _ inner => inner.write store text
  | .fixed _ journal => store.record journal text

end Binding

end Polyview

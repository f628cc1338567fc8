/-
CheckpointMonitor/Proofs/Toml/Value.lean

What a document says, apart from how it is written.

A value forgets where it stands, and whether a table was opened by a header, by a dotted key or by a
brace; an array of tables is an array (`Node.value`).  A document is then the names at its top
with their values, in order (`Entries.document`), and two texts may be the same document.

At the top of a document each name has one value (`value_unique`).  Values can be compared
(`Value.decEq`), so the document of a given text is found by evaluation (`exists_of_document`).
-/
import CheckpointMonitor.Proofs.Toml.Names

namespace CheckpointMonitor.Toml

/-- What a node says. -/
inductive Value where
  | scalar (value : Scalar)
  | array (elements : List Value)
  | table (entries : List (String × Value))

/-- What a whole document says: the names at its top with their values, in order. -/
abbrev Document := List (String × Value)

mutual

/-- Whether two values are equal. -/
def Value.decEq : (a b : Value) → Decidable (a = b)
  | .scalar a, .scalar b => decidable_of_iff (a = b) ⟨congrArg _, Value.scalar.inj⟩
  | .array a, .array b =>
    match Value.decEqs a b with
    | .isTrue h => .isTrue (congrArg _ h)
    | .isFalse h => .isFalse fun heq => h (Value.array.inj heq)
  | .table a, .table b =>
    match Document.decEq a b with
    | .isTrue h => .isTrue (congrArg _ h)
    | .isFalse h => .isFalse fun heq => h (Value.table.inj heq)
  | .scalar _, .array _ | .scalar _, .table _ | .array _, .scalar _ | .array _, .table _
  | .table _, .scalar _ | .table _, .array _ => .isFalse nofun

/-- Whether two lists of values are equal. -/
def Value.decEqs : (a b : List Value) → Decidable (a = b)
  | [], [] => .isTrue rfl
  | [], _ :: _ | _ :: _, [] => .isFalse nofun
  | a :: as, b :: bs =>
    match Value.decEq a b, Value.decEqs as bs with
    | .isTrue h, .isTrue hs => .isTrue (congrArg₂ _ h hs)
    | .isFalse h, _ => .isFalse fun heq => h (List.cons.inj heq).1
    | _, .isFalse hs => .isFalse fun heq => hs (List.cons.inj heq).2

/-- Whether two documents are equal. -/
def Document.decEq : (a b : Document) → Decidable (a = b)
  | [], [] => .isTrue rfl
  | [], _ :: _ | _ :: _, [] => .isFalse nofun
  | (name, a) :: as, (name', b) :: bs =>
    match decEq name name', Value.decEq a b, Document.decEq as bs with
    | .isTrue hname, .isTrue h, .isTrue hs => .isTrue (by rw [hname, h, hs])
    | .isFalse hname, _, _ => .isFalse fun heq => hname (Prod.mk.inj (List.cons.inj heq).1).1
    | _, .isFalse h, _ => .isFalse fun heq => h (Prod.mk.inj (List.cons.inj heq).1).2
    | _, _, .isFalse hs => .isFalse fun heq => hs (List.cons.inj heq).2

end

instance : DecidableEq Value := Value.decEq

mutual

/-- The value that a node is written for. -/
def Node.value : Node → Value
  | .scalar value _ => .scalar value
  | .array elements _ => .array (Node.values elements)
  | .table _ _ entries => .table (Entries.document entries)
  | .tables elements => .array (Entries.documents elements)

/-- The values of the elements of an array. -/
def Node.values : List Node → List Value
  | [] => []
  | node :: later => node.value :: Node.values later

/-- The names of the entries with their values. -/
def Entries.document : Entries → Document
  | [] => []
  | (key, node) :: later => (key.name, node.value) :: Entries.document later

/-- The values of the elements of an array of tables. -/
def Entries.documents : List (Span × List (Key × Node)) → List Value
  | [] => []
  | (_, entries) :: later => .table (Entries.document entries) :: Entries.documents later

end

/-- A table or an array with nothing in it. -/
inductive Value.IsEmpty : Value → Prop where
  | table : IsEmpty (.table [])
  | array : IsEmpty (.array [])

/-! ### Documents -/

theorem eq_ok_of_toOption {α ε : Type} {result : Except ε α} {a : α} (h : result.toOption = some a) :
    result = .ok a := by
  cases result with
  | error e => cases h
  | ok a' => exact congrArg _ (Option.some.inj h)

namespace Entries

variable {entries : Entries} {name : String}

theorem document_eq_map (entries : Entries) :
    entries.document = entries.map fun entry => (entry.1.name, entry.2.value) := by
  induction entries with
  | nil => rfl
  | cons entry entries ih => rw [document, ih, List.map_cons]

/-- A text of which the document is known has entries. -/
theorem exists_of_document {text : String} {document : Document}
    (h : (ofText text).toOption.map Entries.document = some document) :
    ∃ entries, ofText text = .ok entries ∧ entries.document = document := by
  obtain ⟨entries, hentries, hdocument⟩ := Option.map_eq_some_iff.mp h
  exact ⟨entries, eq_ok_of_toOption hentries, hdocument⟩

/-- The names of a document are those of its entries. -/
theorem names_document (entries : Entries) : entries.document.map Prod.fst = entries.names := by
  rw [document_eq_map, List.map_map]
  rfl

/-- **A name has one value** where names are apart. -/
theorem value_unique (hnames : entries.names.Nodup) {value value' : Value}
    (h : (name, value) ∈ entries.document) (h' : (name, value') ∈ entries.document) : value = value' := by
  rw [← names_document] at hnames
  exact congrArg Prod.snd (List.inj_on_of_nodup_map hnames h h' rfl)

end Entries

end CheckpointMonitor.Toml

/-
CheckpointMonitor/Proofs/Toml/Names.lean

No name stands twice at the top of a document.

Every way of changing the entries of a table keeps their names apart: an entry is put at the end
only where none of its name is found, a value is replaced under the name that it has, and a
table that is moved to the end is taken out before.  Only the outermost step of a path touches
the names of the table it begins in, so no induction over paths is needed; the one over the
lines and blocks of a document is that of a fold (`foldlM_preserves`).

So what stands under a name at the top of a document is one thing, and `find?` finds it.
-/
import CheckpointMonitor.Toml.Grammar
import Mathlib.Data.List.Nodup

namespace CheckpointMonitor.Toml

/-! ### Computations that answer -/

/-- A computation in two parts that answers has answered in both. -/
theorem exists_of_bind {α β ε : Type} {first : Except ε α} {next : α → Except ε β} {b : β}
    (h : (first >>= next) = .ok b) : ∃ a, first = .ok a ∧ next a = .ok b := by
  cases first with
  | error e => cases h
  | ok a => exact ⟨a, rfl, h⟩

/-- What every step of a fold keeps holds in the end. -/
theorem foldlM_preserves {α β ε : Type} {P : β → Prop} {f : β → α → Except ε β}
    (hstep : ∀ b a b', P b → f b a = .ok b' → P b') {as : List α} {b b' : β} (hb : P b)
    (h : as.foldlM f b = .ok b') : P b' := by
  induction as generalizing b with
  | nil =>
    obtain rfl := Except.ok.inj h
    exact hb
  | cons a as ih =>
    rw [List.foldlM_cons] at h
    obtain ⟨b₁, hf, hrest⟩ := exists_of_bind h
    exact ih (hstep b a b₁ hb hf) hrest

/-- A reading in two parts that answers has answered in both. -/
theorem Reader.exists_of_bind {α β : Type} {reader : Reader α} {next : α → Reader β} {cursor : Cursor}
    {answer : β × Cursor} (h : (reader >>= next).run cursor = .ok answer) :
    ∃ a cursor', reader.run cursor = .ok (a, cursor') ∧ (next a).run cursor' = .ok answer := by
  rw [StateT.run_bind] at h
  obtain ⟨⟨a, cursor'⟩, hreader, hnext⟩ := Toml.exists_of_bind h
  exact ⟨a, cursor', hreader, hnext⟩

theorem Reader.of_built {α : Type} {result : Except BuildError α} {a : α} {cursor cursor' : Cursor}
    (h : (built result).run cursor = .ok (a, cursor')) : result = .ok a := by
  cases result with
  | error e => cases h
  | ok a' =>
    obtain ⟨rfl, -⟩ := Prod.mk.inj (Except.ok.inj h)
    rfl

namespace Entries

variable {entries entries' : Entries} {key : Key} {node : Node} {name : String}

/-! ### Names -/

/-- The names of the entries, in order. -/
def names (entries : Entries) : List String :=
  entries.map (·.1.name)

@[simp] theorem names_cons (entry : Key × Node) (entries : Entries) :
    names (entry :: entries) = entry.1.name :: names entries := rfl

theorem names_append (entries : Entries) (key : Key) (node : Node) :
    (entries.append key node).names = entries.names ++ [key.name] := by
  rw [append, names, List.map_append]
  rfl

theorem names_replace (entries : Entries) (name : String) (node : Node) :
    (entries.replace name node).names = entries.names := by
  rw [replace, names, List.map_map]
  refine List.map_congr_left fun entry _ => ?_
  simp only [Function.comp_apply]
  split <;> rfl

theorem names_erase (entries : Entries) (name : String) :
    (entries.erase name).names = entries.names.filter (· != name) := by
  rw [erase, names, names, List.filter_map]
  rfl

theorem find?_eq_none_iff : entries.find? name = none ↔ name ∉ entries.names := by
  simp [find?, names]

/-! ### Steps that keep the names apart -/

theorem nodup_append (h : entries.names.Nodup) (hnew : entries.find? key.name = none) (node : Node) :
    (entries.append key node).names.Nodup := by
  rw [names_append, ← List.concat_eq_append]
  exact h.concat (find?_eq_none_iff.mp hnew)

theorem nodup_replace (h : entries.names.Nodup) (name : String) (node : Node) :
    (entries.replace name node).names.Nodup := by
  rwa [names_replace]

theorem nodup_move (h : entries.names.Nodup) (key : Key) (node : Node) :
    ((entries.erase key.name).append key node).names.Nodup := by
  refine nodup_append ?_ (find?_eq_none_iff.mpr ?_) node
  · rw [names_erase]
    exact h.filter _
  · rw [names_erase]
    simp

/-- A change at the end of a path keeps the names apart in the table in which the path begins. -/
theorem nodup_within {way : Way} {change : TableKind → Entries → Except BuildError Entries} {kind : TableKind}
    (hchange : ∀ kind entries entries', entries.names.Nodup → change kind entries = .ok entries' →
      entries'.names.Nodup)
    (path : List Key) (h : entries.names.Nodup) (hwithin : entries.within way change kind path = .ok entries') :
    entries'.names.Nodup := by
  rcases path with - | ⟨key, path⟩
  · exact hchange kind entries entries' h hwithin
  -- whatever is done further down, here an entry is added or replaced
  rw [within] at hwithin
  split at hwithin
  · next hnone =>
    obtain ⟨inner, -, hinner⟩ := exists_of_bind hwithin
    obtain rfl := Except.ok.inj hinner
    exact nodup_append h hnone _
  · split at hwithin
    · obtain ⟨inner, -, hinner⟩ := exists_of_bind hwithin
      obtain rfl := Except.ok.inj hinner
      exact nodup_replace h _ _
    · cases hwithin
  · split at hwithin
    · cases hwithin
    · obtain ⟨inner, -, hinner⟩ := exists_of_bind hwithin
      obtain rfl := Except.ok.inj hinner
      exact nodup_replace h _ _
  · cases hwithin

end Entries

variable {entries entries' : Entries}

theorem Assignment.nodup_addTo {line : Assignment} {kind : TableKind} (h : entries.names.Nodup)
    (hadd : line.addTo kind entries = .ok entries') : entries'.names.Nodup := by
  refine Entries.nodup_within ?_ line.path h hadd
  intro reached entries entries' h hadd
  split at hadd
  · cases hadd
  split at hadd
  · cases hadd
  · next hnone =>
    obtain rfl := Except.ok.inj hadd
    exact Entries.nodup_append h hnone _

theorem Assignment.nodup_addAll {lines : List Assignment} {kind : TableKind} (h : entries.names.Nodup)
    (hadd : addAll kind entries lines = .ok entries') : entries'.names.Nodup :=
  foldlM_preserves (P := fun entries : Entries => entries.names.Nodup) (fun _ _ _ => nodup_addTo) h hadd

theorem Block.nodup_place {block : Block} {kind : TableKind} (h : entries.names.Nodup)
    (hplace : block.place kind entries = .ok entries') : entries'.names.Nodup := by
  rw [place] at hplace
  -- the entries under the header are of no matter here
  split at hplace
  · next hnone =>
    obtain ⟨inner, -, hinner⟩ := exists_of_bind hplace
    obtain rfl := Except.ok.inj hinner
    exact Entries.nodup_append h hnone _
  · obtain ⟨inner, -, hinner⟩ := exists_of_bind hplace
    obtain rfl := Except.ok.inj hinner
    exact Entries.nodup_replace h _ _
  · next hnone =>
    obtain ⟨inner, -, hinner⟩ := exists_of_bind hplace
    obtain rfl := Except.ok.inj hinner
    exact Entries.nodup_append h hnone _
  · obtain ⟨inner, -, hinner⟩ := exists_of_bind hplace
    obtain rfl := Except.ok.inj hinner
    exact Entries.nodup_move h _ _
  · cases hplace

/-! ### Whole documents -/

theorem Entries.nodup_ofBlocks {lines : List Assignment} {blocks : List Block}
    (h : ofBlocks lines blocks = .ok entries) : entries.names.Nodup := by
  rw [ofBlocks] at h
  obtain ⟨root, hroot, hblocks⟩ := exists_of_bind h
  have hempty : (names []).Nodup := List.nodup_nil
  refine foldlM_preserves (P := fun entries : Entries => entries.names.Nodup) ?_
    (Assignment.nodup_addAll hempty hroot) hblocks
  intro entries block entries' hentries hwithin
  exact nodup_within (fun _ _ _ => Block.nodup_place) block.header.path hentries hwithin

/-- **No name stands twice at the top of a document.** -/
theorem Entries.nodup_ofText {text : String} (h : ofText text = .ok entries) : entries.names.Nodup := by
  rw [ofText] at h
  obtain ⟨⟨found, cursor⟩, hread, hfound⟩ := exists_of_bind h
  obtain rfl := Except.ok.inj hfound
  -- the last thing that is done to read a document is to build it
  rw [Reader.entries] at hread
  obtain ⟨_, _, _, hafter⟩ := Reader.exists_of_bind hread
  obtain ⟨lines, _, _, hafter⟩ := Reader.exists_of_bind hafter
  obtain ⟨blocks, _, _, hbuilt⟩ := Reader.exists_of_bind hafter
  exact nodup_ofBlocks (Reader.of_built hbuilt)

end CheckpointMonitor.Toml

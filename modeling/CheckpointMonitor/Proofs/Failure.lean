/-
CheckpointMonitor/Proofs/Failure.lean

What is said about a failure tells which failure it is.

The kinds of failure are told apart by the first letter of what is said (`initial_message`).  What is
said about a breach of the protocol is cut where the phrase ends, at the first quotation mark, since no
phrase has one in it, and where the name of the phase ends, at the first blank, if there is a line to
be named after it (`Violation.message_injective`).  Everything else that is said has a fixed
beginning, and the rest of it is the text of the channel or the reason itself.
-/
import CheckpointMonitor.Failure
import CheckpointMonitor.Proofs.Text.Numeral

namespace CheckpointMonitor

/-- Texts that are equal are so up to the first separator and after it. -/
theorem Text.append_cons_inj {separator : Char} {first first' rest rest' : List Char}
    (hfirst : separator ∉ first) (hfirst' : separator ∉ first')
    (h : first ++ separator :: rest = first' ++ separator :: rest') : first = first' ∧ rest = rest' := by
  have hne : ∀ {letters : List Char}, separator ∉ letters → ∀ c ∈ letters, (c != separator) = true := by
    intro letters hletters c hc
    exact bne_iff_ne.mpr fun heq => hletters (heq ▸ hc)
  have hwhile := congrArg (List.takeWhile (· != separator)) h
  rw [List.takeWhile_append_of_pos (hne hfirst), List.takeWhile_append_of_pos (hne hfirst'),
    List.takeWhile_cons_of_neg (by simp), List.takeWhile_cons_of_neg (by simp), List.append_nil,
    List.append_nil] at hwhile
  subst hwhile
  exact ⟨rfl, (List.cons.inj (List.append_cancel_left h)).2⟩

/-! ### Breaches of the protocol -/

namespace Violation

theorem quote_notMem_phrase (marker : Marker) : '\'' ∉ marker.phrase.toList := by
  cases marker <;> decide

theorem blank_notMem_name (phase : Phase) : ' ' ∉ phase.name.toList := by
  cases phase <;> decide

theorem phrase_injective {marker marker' : Marker} (h : marker.phrase = marker'.phrase) :
    marker = marker' := by
  revert h
  cases marker <;> cases marker' <;> decide

theorem name_injective {phase phase' : Phase} (h : phase.name = phase'.name) : phase = phase' := by
  revert h
  cases phase <;> cases phase' <;> decide

/-- What is said of the line tells which it is, and whether it is known. -/
theorem lineNote_injective {line line' : Option Nat} (h : lineNote line = lineNote line') :
    line = line' := by
  have hnote : ∀ n : Nat, lineNote (some n) ≠ "" := by
    intro n hempty
    rw [lineNote, String.append_eq_empty_iff] at hempty
    exact absurd hempty.2 (by decide)
  rcases line with - | n <;> rcases line' with - | m
  · rfl
  · exact absurd h.symm (hnote m)
  · exact absurd h (hnote n)
  · rw [lineNote, lineNote, String.append_left_inj, String.append_right_inj] at h
    have hread := congrArg (fun digits : String => Text.number? digits.toList) h
    rwa [Text.number?_repr, Text.number?_repr] at hread

/-- What is said of the line begins with a blank, if anything is said. -/
theorem exists_lineNote_blank (line : Option Nat) :
    ∃ rest, (lineNote line).toList ++ [' '] = ' ' :: rest := by
  cases line with
  | none => exact ⟨[], rfl⟩
  | some n =>
    have hblank : " (line ".toList = ' ' :: "(line ".toList := rfl
    rw [lineNote, String.toList_append, String.toList_append, hblank, List.append_assoc, List.append_assoc,
      List.cons_append]
    exact ⟨_, rfl⟩

/-- **What is said about a breach tells which it is.** -/
theorem message_injective {v v' : Violation} (h : v.message = v'.message) : v = v' := by
  obtain ⟨marker, phase, line⟩ := v
  obtain ⟨marker', phase', line'⟩ := v'
  have hletters := congrArg String.toList h
  unfold message at hletters
  simp only [String.toList_append, List.append_assoc] at hletters
  -- the phrase ends at the first quotation mark
  obtain ⟨hphrase, hrest⟩ :=
    Text.append_cons_inj (quote_notMem_phrase marker) (quote_notMem_phrase marker')
      (List.append_cancel_left hletters)
  obtain rfl := phrase_injective (String.toList_inj.mp hphrase)
  -- the name of the phase ends at the first blank, or at the end
  have hnames := congrArg (· ++ [' ']) (List.append_cancel_left hrest)
  obtain ⟨rest, hblank⟩ := exists_lineNote_blank line
  obtain ⟨rest', hblank'⟩ := exists_lineNote_blank line'
  simp only [List.append_assoc, hblank, hblank'] at hnames
  obtain ⟨hname, hnote⟩ :=
    Text.append_cons_inj (blank_notMem_name phase) (blank_notMem_name phase') hnames
  obtain rfl := name_injective (String.toList_inj.mp hname)
  have hline : (lineNote line).toList = (lineNote line').toList := by
    rw [← List.append_cancel_right_eq _ [' '], hblank, hblank', hnote]
  obtain rfl := lineNote_injective (String.toList_inj.mp hline)
  rfl

/-- Of several lines that are given one after another the last is kept. -/
theorem foldl_atLine (v : Violation) (earlier : List Nat) (n : Nat) :
    (earlier ++ [n]).foldl atLine v = v.atLine n := by
  induction earlier generalizing v with
  | nil => rfl
  | cons m earlier ih => rw [List.cons_append, List.foldl_cons, ih, atLine_atLine]

/-- The line that is kept is named after everything else. -/
theorem message_foldl_atLine (marker : Marker) (phase : Phase) (earlier : List Nat) (n : Nat) :
    ((earlier ++ [n]).foldl atLine ⟨marker, phase, none⟩).message
      = message ⟨marker, phase, none⟩ ++ (" (line " ++ n.repr ++ ")") := by
  rw [foldl_atLine]
  unfold message
  rw [atLine_marker, atLine_phase, atLine_line, lineNote, lineNote, String.append_empty]

end Violation

/-! ### All failures -/

namespace Failure

/-- The failures are of the same kind and say the same, word for word: the same breach on the same line or
on none, the same text of the channel, the same reason. -/
inductive SayTheSame : Failure → Failure → Prop where
  | violation (v : Violation) : SayTheSame (.violation v) (.violation v)
  | halted : SayTheSame .halted .halted
  | channel {fault fault' : Fault} (h : fault.text = fault'.text) :
    SayTheSame (.channel fault) (.channel fault')
  | settings (reason : String) : SayTheSame (.settings reason) (.settings reason)

/-- The letter with which a kind of failure begins. -/
def initial : Failure → Char
  | violation _ => 'p'
  | halted => 'm'
  | channel _ => 's'
  | settings _ => 'c'

theorem initial_message (failure : Failure) : failure.message.toList.head? = some failure.initial := by
  cases failure with
  | violation v =>
    unfold message Violation.message
    simp only [String.toList_append, List.append_assoc]
    rfl
  | halted => rfl
  | channel fault =>
    unfold message
    rw [String.toList_append]
    rfl
  | settings reason =>
    unfold message
    rw [String.toList_append]
    rfl

/-- **What is said about a failure tells which it is.** -/
theorem message_eq_iff (failure failure' : Failure) :
    failure.message = failure'.message ↔ SayTheSame failure failure' := by
  constructor
  · intro h
    have hinitial : failure.initial = failure'.initial := by
      rw [← Option.some_inj, ← initial_message, ← initial_message, h]
    cases failure with
    | violation v =>
      cases failure' with
      | violation v' =>
        obtain rfl := Violation.message_injective h
        exact .violation v
      | _ => cases hinitial
    | halted =>
      cases failure' with
      | halted => exact .halted
      | _ => cases hinitial
    | channel fault =>
      cases failure' with
      | channel fault' => exact .channel ((String.append_right_inj _).mp h)
      | _ => cases hinitial
    | settings reason =>
      cases failure' with
      | settings reason' =>
        obtain rfl := (String.append_right_inj _).mp h
        exact .settings reason
      | _ => cases hinitial
  · rintro (v | - | h | reason)
    · rfl
    · rfl
    · exact congrArg ("stream I/O failed: " ++ ·) h
    · rfl

/-- **Failures are identified by what is said about them.**

The same is said about two failures exactly if they are of the same kind and say the same.  About a breach
of the protocol the command says what the breach itself says; and a breach to which lines were given, one
after another, says what it says without a line, and then which was the last of them. -/
theorem message_identifies :
    (∀ failure failure' : Failure, failure.message = failure'.message ↔ SayTheSame failure failure') ∧
    (∀ v : Violation, (violation v).message = v.message) ∧
    ∀ (marker : Marker) (phase : Phase) (earlier : List Nat) (n : Nat),
      ((earlier ++ [n]).foldl Violation.atLine ⟨marker, phase, none⟩).message
        = Violation.message ⟨marker, phase, none⟩ ++ (" (line " ++ n.repr ++ ")") :=
  ⟨message_eq_iff, fun _ => rfl, Violation.message_foldl_atLine⟩

end Failure

end CheckpointMonitor

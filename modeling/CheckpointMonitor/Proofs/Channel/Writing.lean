/-
CheckpointMonitor/Proofs/Channel/Writing.lean

What a sink takes of the bytes that are written to it.

A single write may take little, but `writeAll` goes on until all is taken; so, as long
as a write takes anything at all, only the room that is left decides: bytes for which
there is room are taken, and of others just the part that fits (`writeAll_eq`).

`Alike` sinks take the same; they can differ in how much a single write takes and in when
a shutdown is requested.  `Admits` says that there is room for bytes, and that so many
flushes succeed; a boundless sink admits everything (`Boundless.admits`).  An accepting one takes
everything too, but may ask for a shutdown.
-/
import CheckpointMonitor.Channel.Sink
import Mathlib.Logic.Basic

namespace CheckpointMonitor.Sink

variable {s : Sink} {bytes later : List UInt8}

/-! ### Accepted bytes -/

@[simp] theorem accept_nil (s : Sink) : s.accept [] = s := by
  simp [accept]

@[simp] theorem accept_accept (s : Sink) (bytes later : List UInt8) :
    (s.accept bytes).accept later = s.accept (bytes ++ later) := by
  have h : s.taken ++ bytes ++ later = s.taken ++ (bytes ++ later) := Array.ext' (by simp)
  rw [accept, accept, accept, h]

theorem size_taken_accept (s : Sink) (bytes : List UInt8) :
    (s.accept bytes).taken.size = s.taken.size + bytes.length := by
  rw [taken_accept, ← Array.length_toList, Array.toList_appendList, List.length_append,
    Array.length_toList]

/-! ### Room -/

/-- The part of the bytes for which the sink has room. -/
def fitting (s : Sink) (bytes : List UInt8) : List UInt8 :=
  match s.capacity with
  | none => bytes
  | some capacity => bytes.take (capacity - s.taken.size)

theorem fitting_of_none (h : s.capacity = none) (bytes : List UInt8) : s.fitting bytes = bytes := by
  rw [fitting, h]

theorem fitting_of_some {capacity : Nat} (h : s.capacity = some capacity) (bytes : List UInt8) :
    s.fitting bytes = bytes.take (capacity - s.taken.size) := by
  rw [fitting, h]

/-- Nothing fits exactly when the sink is full. -/
theorem fitting_eq_nil_iff (hne : bytes ≠ []) : s.fitting bytes = [] ↔ s.isFull = true := by
  rw [fitting, isFull]
  cases s.capacity with
  | none => simp [hne]
  | some capacity => simp [hne, Nat.sub_eq_zero_iff_le]

/-- Bytes that fit leave less room for those after them. -/
theorem fitting_append (hfit : s.fitting bytes = bytes) (later : List UInt8) :
    s.fitting (bytes ++ later) = bytes ++ (s.accept bytes).fitting later := by
  cases hc : s.capacity with
  | none =>
    rw [fitting_of_none hc, fitting_of_none (s := s.accept bytes) hc]
  | some capacity =>
    rw [fitting_of_some hc] at hfit
    rw [fitting_of_some hc, fitting_of_some (s := s.accept bytes) hc, List.take_append,
      size_taken_accept, ← Nat.sub_sub, hfit]

/-- Bytes do not fit only where there is less room than they need. -/
theorem exists_room_of_fitting_ne (hfit : s.fitting bytes ≠ bytes) :
    ∃ capacity, s.capacity = some capacity ∧ capacity - s.taken.size < bytes.length ∧
      s.fitting bytes = bytes.take (capacity - s.taken.size) := by
  cases hc : s.capacity with
  | none => exact absurd (fitting_of_none hc bytes) hfit
  | some capacity =>
    rw [fitting_of_some hc] at hfit
    refine ⟨capacity, rfl, ?_, fitting_of_some hc bytes⟩
    exact Nat.lt_of_not_le fun hle => hfit (List.take_of_length_le hle)

/-- Where not all fits, nothing after it is taken. -/
theorem fitting_append_of_ne (hfit : s.fitting bytes ≠ bytes) (later : List UInt8) :
    s.fitting (bytes ++ later) = s.fitting bytes := by
  obtain ⟨capacity, hc, hlt, hfitting⟩ := exists_room_of_fitting_ne hfit
  rw [hfitting, fitting_of_some hc]
  exact List.take_append_of_le_length (Nat.le_of_lt hlt)

/-- A first part of bytes that fit fits. -/
theorem fitting_of_append (hfit : s.fitting (bytes ++ later) = bytes ++ later) :
    s.fitting bytes = bytes := by
  rcases eq_or_ne (s.fitting bytes) bytes with h | h
  · exact h
  · obtain ⟨capacity, -, hlt, hfitting⟩ := exists_room_of_fitting_ne h
    have hlength := congrArg List.length hfit
    rw [fitting_append_of_ne h, hfitting, List.length_take, List.length_append] at hlength
    omega

theorem fitting_prefix (s : Sink) (bytes : List UInt8) : s.fitting bytes <+: bytes := by
  rw [fitting]
  split
  · exact List.prefix_refl bytes
  · exact List.take_prefix _ _

/-- Whether the bytes are no more than the sink has room for. -/
def HasRoom (s : Sink) (bytes : List UInt8) : Prop :=
  ∀ capacity, s.capacity = some capacity → bytes.length ≤ capacity - s.taken.size

theorem hasRoom_fitting (s : Sink) (bytes : List UInt8) : s.HasRoom (s.fitting bytes) := by
  intro capacity hc
  rw [fitting_of_some hc]
  exact List.length_take_le _ _

/-- No longer first part of the bytes would fit. -/
theorem HasRoom.length_le {first : List UInt8} (h : s.HasRoom first) (hfirst : first <+: bytes) :
    first.length ≤ (s.fitting bytes).length := by
  cases hc : s.capacity with
  | none =>
    rw [fitting_of_none hc]
    exact hfirst.length_le
  | some capacity =>
    rw [fitting_of_some hc, List.length_take]
    exact Nat.le_min.mpr ⟨h capacity hc, hfirst.length_le⟩

/-- A sink that took less than it was given is full. -/
theorem isFull_accept_fitting (hfit : s.fitting bytes ≠ bytes) :
    (s.accept (s.fitting bytes)).isFull = true := by
  obtain ⟨capacity, hc, hlt, hfitting⟩ := exists_room_of_fitting_ne hfit
  have hsize := size_taken_accept s (s.fitting bytes)
  rw [hfitting, List.length_take_of_le (Nat.le_of_lt hlt)] at hsize
  have hcapacity : (s.accept (s.fitting bytes)).capacity = some capacity := hc
  rw [isFull, hcapacity, hfitting, hsize]
  exact decide_eq_true (by omega)

/-- A single write takes a first part of what fits. -/
theorem portion_eq (s : Sink) (bytes : List UInt8) :
    s.portion bytes = match s.perWrite with
      | none => s.fitting bytes
      | some most => (s.fitting bytes).take most := by
  rw [portion, fitting]
  cases s.capacity <;> cases s.perWrite <;> simp [List.take_take, Nat.min_comm]

theorem fitting_portion (s : Sink) (bytes : List UInt8) :
    s.fitting (s.portion bytes) = s.portion bytes := by
  rw [portion]
  cases hc : s.capacity with
  | none => rw [fitting_of_none hc]
  | some capacity =>
    dsimp only
    rw [fitting_of_some hc, List.take_take, Nat.min_self]

theorem portion_prefix (s : Sink) (bytes : List UInt8) : s.portion bytes <+: bytes := by
  rw [portion_eq]
  split
  · exact s.fitting_prefix bytes
  · exact (List.take_prefix _ _).trans (s.fitting_prefix bytes)

theorem portion_eq_nil_iff (hw : s.perWrite ≠ some 0) :
    s.portion bytes = [] ↔ s.fitting bytes = [] := by
  rw [portion_eq]
  split
  · rfl
  · next most h =>
    have hmost : most ≠ 0 := by
      rintro rfl
      exact hw h
    simp [hmost]

/-! ### Writing -/

/-- A single write into a full sink fails or takes nothing. -/
theorem write_of_full (hw : s.perWrite ≠ some 0) (h : s.isFull = true) (hne : bytes ≠ []) :
    (∃ fault, s.fullFault = some fault ∧ s.write bytes = .error ⟨fault, s⟩) ∨
      (s.fullFault = none ∧ s.write bytes = .ok (0, s)) := by
  have hportion := (portion_eq_nil_iff hw).mpr ((fitting_eq_nil_iff hne).mpr h)
  rw [write, h, hportion, accept_nil]
  cases s.fullFault with
  | none => exact Or.inr ⟨rfl, rfl⟩
  | some fault => exact Or.inl ⟨fault, rfl, rfl⟩

/-- Writing into a full sink fails, in one way or another, and leaves it as it is. -/
theorem writeAll_of_full (hw : s.perWrite ≠ some 0) (h : s.isFull = true) (hne : bytes ≠ []) :
    s.writeAll bytes = .error ⟨s.fullFault.getD .writeZero, s⟩ := by
  obtain ⟨byte, rest, rfl⟩ := List.exists_cons_of_ne_nil hne
  rw [writeAll]
  rcases write_of_full hw h hne with ⟨fault, hfault, hwrite⟩ | ⟨hfault, hwrite⟩
  · rw [hwrite, hfault]
    rfl
  · rw [hwrite, hfault]
    rfl

/-- A write that takes something is followed by a write of the rest. -/
theorem writeAll_of_not_full (hw : s.perWrite ≠ some 0) (h : s.isFull = false) (hne : bytes ≠ []) :
    ∃ later, s.portion bytes ++ later = bytes ∧ later.length < bytes.length ∧
      s.writeAll bytes = (s.accept (s.portion bytes)).writeAll later := by
  obtain ⟨byte, rest, rfl⟩ := List.exists_cons_of_ne_nil hne
  obtain ⟨later, hlater⟩ := s.portion_prefix (byte :: rest)
  have hportion : s.portion (byte :: rest) ≠ [] := by
    rw [Ne, portion_eq_nil_iff hw, fitting_eq_nil_iff hne, h]
    exact Bool.false_ne_true
  obtain ⟨first, others, hcons⟩ := List.exists_cons_of_ne_nil hportion
  have hrest : rest = others ++ later := by
    rw [hcons] at hlater
    exact (List.cons.inj hlater).2.symm
  refine ⟨later, hlater, ?_, ?_⟩
  · rw [hrest, List.length_cons, List.length_append]
    omega
  · rw [writeAll, write, h]
    simp only [hcons, List.length_cons]
    rw [hrest, List.drop_left]

/-- **Writing takes what fits.**  How much a single write takes cannot be seen in the end. -/
theorem writeAll_eq (hw : s.perWrite ≠ some 0) (bytes : List UInt8) :
    s.writeAll bytes =
      if s.fitting bytes = bytes then .ok (s.accept bytes)
      else .error ⟨s.fullFault.getD .writeZero, s.accept (s.fitting bytes)⟩ := by
  -- each write leaves fewer bytes to be written, and less room for them
  induction hn : bytes.length using Nat.strongRecOn generalizing s bytes with
  | _ n ih =>
    rcases eq_or_ne bytes [] with rfl | hne
    · have hfit : s.fitting [] = [] := by
        rw [fitting]
        split <;> simp
      rw [if_pos hfit, writeAll_nil, accept_nil]
    cases hfull : s.isFull with
    | true =>
      have hfit := (fitting_eq_nil_iff hne).mpr hfull
      rw [writeAll_of_full hw hfull hne, hfit, if_neg hne.symm, accept_nil]
    | false =>
      obtain ⟨later, hbytes, hlt, hwrite⟩ := writeAll_of_not_full hw hfull hne
      -- all fits exactly if what is left fits into the room that is left
      have hfit : s.fitting bytes = s.portion bytes ++ (s.accept (s.portion bytes)).fitting later := by
        rw [← fitting_append (s.fitting_portion bytes), hbytes]
      have hiff : s.fitting bytes = bytes ↔ (s.accept (s.portion bytes)).fitting later = later := by
        rw [hfit, ← List.append_cancel_left_eq (s.portion bytes) _ later, hbytes]
      have hsink : (s.accept (s.portion bytes)).perWrite ≠ some 0 := hw
      rw [hwrite, ih _ (hn ▸ hlt) hsink later rfl, accept_accept, accept_accept, hbytes, ← hfit]
      exact if_congr hiff.symm rfl rfl

/-- Writing that succeeds has taken all, however little a single write takes. -/
theorem eq_accept_of_writeAll {s' : Sink} (h : s.writeAll bytes = .ok s') : s' = s.accept bytes := by
  fun_induction writeAll s bytes with
  | case1 s =>
    obtain rfl := Except.ok.inj h
    exact s.accept_nil.symm
  | case2 => cases h
  | case3 => cases h
  | case4 s byte rest n s₁ hwrite ih =>
    -- the bytes of which a single write took the first are those and the rest
    obtain ⟨hlength, rfl⟩ : (s.portion (byte :: rest)).length = n + 1 ∧
        s.accept (s.portion (byte :: rest)) = s₁ := by
      rw [write] at hwrite
      split at hwrite
      · cases hwrite
      · simpa using hwrite
    obtain ⟨later, hlater⟩ := s.portion_prefix (byte :: rest)
    have hrest : rest.drop n = later := by
      have := congrArg (List.drop (n + 1)) hlater
      rwa [← hlength, List.drop_left, hlength, List.drop_succ_cons, eq_comm] at this
    rw [ih h, accept_accept, hrest, hlater]

/-! ### Flushing -/

/-- The sink after it took the bytes and was flushed a number of times. -/
def after (s : Sink) (bytes : List UInt8) (flushes : Nat) : Sink :=
  { s.accept bytes with flushes := s.flushes + flushes }

@[simp] theorem flushes_after (s : Sink) (bytes : List UInt8) (flushes : Nat) :
    (s.after bytes flushes).flushes = s.flushes + flushes := rfl

@[simp] theorem after_zero (s : Sink) : s.after [] 0 = s := by
  simp [after]

@[simp] theorem after_after (s : Sink) (bytes later : List UInt8) (m n : Nat) :
    (s.after bytes m).after later n = s.after (bytes ++ later) (m + n) := by
  show { (s.accept bytes).accept later with flushes := s.flushes + m + n } = _
  rw [accept_accept, Nat.add_assoc, after]

/-- A flush after the bytes. -/
theorem after_accept (s : Sink) (bytes : List UInt8) (flushes : Nat) :
    (s.accept bytes).after [] flushes = s.after bytes flushes := by
  rw [after, accept_nil, after]
  rfl

/-- **What a flush can do.**  It fails if it is the one that fails, and counts in any case. -/
theorem flush_cases (s : Sink) :
    (∃ fault, s.flushFault = some (s.flushes + 1, fault) ∧ s.flush = .error ⟨fault, s.after [] 1⟩) ∨
    ((∀ fault, s.flushFault ≠ some (s.flushes + 1, fault)) ∧ s.flush = .ok (s.after [] 1)) := by
  rw [after, accept_nil, flush]
  rcases hf : s.flushFault with - | ⟨n, fault⟩
  · exact Or.inr ⟨by simp, rfl⟩
  · by_cases hn : s.flushes + 1 = n
    · subst hn
      exact Or.inl ⟨fault, rfl, if_pos rfl⟩
    · refine Or.inr ⟨?_, if_neg hn⟩
      intro fault' heq
      exact hn (congrArg Prod.fst (Option.some.inj heq)).symm

/-! ### Sinks that take the same -/

/-- The sinks take the same bytes and fail in the same way, so that they can be told apart only by
how much a single write takes and by the flush during which a shutdown is requested. -/
structure Alike (s s' : Sink) : Prop where
  perWrite : s.perWrite = some 0 ↔ s'.perWrite = some 0
  capacity : s.capacity = s'.capacity
  fullFault : s.fullFault = s'.fullFault
  flushFault : s.flushFault = s'.flushFault
  taken : s.taken = s'.taken
  flushes : s.flushes = s'.flushes

/-- Two actions that came to the same, with sinks that take the same. -/
inductive AlikeResult : Except Failure Sink → Except Failure Sink → Prop where
  | ok {s s' : Sink} (h : s.Alike s') : AlikeResult (.ok s) (.ok s')
  | error {fault : Fault} {s s' : Sink} (h : s.Alike s') :
    AlikeResult (.error ⟨fault, s⟩) (.error ⟨fault, s'⟩)

theorem AlikeResult.bind {r r' : Except Failure Sink} {act : Sink → Except Failure Sink}
    (h : AlikeResult r r') (hact : ∀ s s' : Sink, s.Alike s' → AlikeResult (act s) (act s')) :
    AlikeResult (r >>= act) (r' >>= act) := by
  cases h with
  | ok h => exact hact _ _ h
  | error h => exact .error h

/-- A sink that takes nothing refuses all bytes. -/
theorem writeAll_of_zero (hw : s.perWrite = some 0) (hne : bytes ≠ []) :
    s.writeAll bytes = .error ⟨if s.isFull then s.fullFault.getD .writeZero else .writeZero, s⟩ := by
  obtain ⟨byte, rest, rfl⟩ := List.exists_cons_of_ne_nil hne
  have hportion : s.portion (byte :: rest) = [] := by
    rw [portion_eq, hw]
    exact List.take_zero
  rw [writeAll, write, hportion, accept_nil]
  cases s.isFull <;> cases s.fullFault <;> rfl

namespace Alike

variable {s' : Sink}

theorem after (h : s.Alike s') (bytes : List UInt8) (flushes : Nat) :
    (s.after bytes flushes).Alike (s'.after bytes flushes) where
  perWrite := h.perWrite
  capacity := h.capacity
  fullFault := h.fullFault
  flushFault := h.flushFault
  taken := congrArg (fun taken : Array UInt8 => taken ++ bytes) h.taken
  flushes := congrArg (fun n : Nat => n + flushes) h.flushes

theorem fitting_eq (h : s.Alike s') (bytes : List UInt8) : s.fitting bytes = s'.fitting bytes := by
  rw [fitting, fitting, h.capacity, h.taken]

theorem isFull_eq (h : s.Alike s') : s.isFull = s'.isFull := by
  rw [isFull, isFull, h.capacity, h.taken]

/-- **How much a single write takes cannot be seen,** as long as it takes anything, or neither does. -/
theorem writeAll (h : s.Alike s') (bytes : List UInt8) :
    AlikeResult (s.writeAll bytes) (s'.writeAll bytes) := by
  rcases eq_or_ne bytes [] with rfl | hne
  · rw [writeAll_nil, writeAll_nil]
    exact .ok h
  by_cases hw : s.perWrite = some 0
  · rw [writeAll_of_zero hw hne, writeAll_of_zero (h.perWrite.mp hw) hne, h.isFull_eq, h.fullFault]
    exact .error h
  · rw [writeAll_eq hw, writeAll_eq (fun hw' => hw (h.perWrite.mpr hw')), h.fitting_eq, h.fullFault]
    split
    · exact .ok (h.after bytes 0)
    · exact .error (h.after _ 0)

theorem flush (h : s.Alike s') : AlikeResult s.flush s'.flush := by
  have hafter := h.after [] 1
  rcases flush_cases s with ⟨fault, hfault, hflush⟩ | ⟨hfault, hflush⟩
  · rcases flush_cases s' with ⟨fault', hfault', hflush'⟩ | ⟨hfault', -⟩
    · rw [h.flushFault, h.flushes, hfault'] at hfault
      obtain rfl := congrArg Prod.snd (Option.some.inj hfault)
      rw [hflush, hflush']
      exact .error hafter
    · rw [h.flushFault, h.flushes] at hfault
      exact absurd hfault (hfault' fault)
  · rcases flush_cases s' with ⟨fault', hfault', -⟩ | ⟨-, hflush'⟩
    · rw [← h.flushFault, ← h.flushes] at hfault'
      exact absurd hfault' (hfault fault')
    · rw [hflush, hflush']
      exact .ok hafter

end Alike

/-! ### Admitted bytes -/

/-- The sink takes the bytes and is flushed so many times without a failure, and without a request
to shut down before the last of the flushes. -/
structure Admits (s : Sink) (bytes : List UInt8) (flushes : Nat) : Prop where
  /-- Each write takes something. -/
  perWrite : s.perWrite ≠ some 0
  fits : s.fitting bytes = bytes
  flushFault : ∀ n fault, s.flushFault = some (n, fault) → n ≤ s.flushes ∨ s.flushes + flushes < n
  shutdownFlush : ∀ n, s.shutdownFlush = some n → n ≤ s.flushes ∨ s.flushes + flushes ≤ n

namespace Admits

variable {flushes : Nat}

/-- Some of the admitted bytes, with fewer flushes. -/
theorem left (h : s.Admits (bytes ++ later) (flushes + 1)) : s.Admits bytes 1 where
  perWrite := h.perWrite
  fits := fitting_of_append h.fits
  flushFault n fault hn := (h.flushFault n fault hn).imp_right (by omega)
  shutdownFlush n hn := (h.shutdownFlush n hn).imp_right (by omega)

/-- The admitted bytes after these. -/
theorem right (h : s.Admits (bytes ++ later) (flushes + 1)) :
    (s.after bytes 1).Admits later flushes where
  perWrite := h.perWrite
  fits := by
    have hfits := h.fits
    rw [fitting_append h.left.fits, List.append_cancel_left_eq] at hfits
    exact hfits
  flushFault n fault hn := by
    have := h.flushFault n fault hn
    rw [flushes_after]
    omega
  shutdownFlush n hn := by
    have := h.shutdownFlush n hn
    rw [flushes_after]
    omega

/-- No shutdown is requested in a flush that is admitted with others after it, nor in the last one
if it is not the flush of the request. -/
theorem requestsShutdown (h : s.Admits (bytes ++ later) (flushes + 1))
    (hlast : flushes = 0 → s.shutdownFlush ≠ some (s.flushes + 1)) :
    (s.after bytes 1).requestsShutdown = false := by
  rw [Sink.requestsShutdown]
  refine decide_eq_false fun hn => ?_
  have hn : s.shutdownFlush = some (s.flushes + 1) := hn
  have hcases := h.shutdownFlush _ hn
  exact hlast (by omega) hn

end Admits

/-! ### Boundless sinks -/

/-- A sink that takes all that is written to it, whose flushes do not fail, and that asks for no
shutdown. -/
structure Boundless (s : Sink) : Prop where
  /-- Each write takes something. -/
  perWrite : s.perWrite ≠ some 0
  capacity : s.capacity = none
  flushFault : s.flushFault = none
  shutdownFlush : s.shutdownFlush = none

theorem Boundless.admits (h : s.Boundless) (bytes : List UInt8) (flushes : Nat) : s.Admits bytes flushes where
  perWrite := h.perWrite
  fits := fitting_of_none h.capacity bytes
  flushFault _ _ hn := by cases h.flushFault.symm.trans hn
  shutdownFlush _ hn := by cases h.shutdownFlush.symm.trans hn

/-! ### Accepting sinks -/

/-- A sink that takes all that is written to it and whose flushes do not fail; a shutdown may be
requested in one of them. -/
structure Accepting (s : Sink) : Prop where
  /-- Each write takes something. -/
  perWrite : s.perWrite ≠ some 0
  capacity : s.capacity = none
  flushFault : s.flushFault = none

namespace Accepting

theorem accept (h : s.Accepting) (bytes : List UInt8) : (s.accept bytes).Accepting :=
  ⟨h.perWrite, h.capacity, h.flushFault⟩

theorem after (h : s.Accepting) (bytes : List UInt8) (flushes : Nat) : (s.after bytes flushes).Accepting :=
  ⟨h.perWrite, h.capacity, h.flushFault⟩

theorem writeAll (h : s.Accepting) (bytes : List UInt8) : s.writeAll bytes = .ok (s.accept bytes) := by
  rw [writeAll_eq h.perWrite, if_pos (fitting_of_none h.capacity bytes)]

theorem flush (h : s.Accepting) : s.flush = .ok (s.after [] 1) := by
  rcases flush_cases s with ⟨fault, hfault, -⟩ | ⟨-, hflush⟩
  · cases h.flushFault.symm.trans hfault
  · exact hflush

end Accepting

end CheckpointMonitor.Sink

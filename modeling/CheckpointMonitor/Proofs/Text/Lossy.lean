/-
CheckpointMonitor/Proofs/Text/Lossy.lean

The forgiving reading of bytes keeps plain ASCII where it stands.

`Stands bytes chars` says how characters can stand for bytes: an ASCII byte for
itself, and a character past ASCII for a piece of one or more bytes past ASCII.
Neither a broken sequence nor a complete one takes an ASCII byte with it, and none
vanishes without a character in its place.  `stands_decodeLossy` says that the
reading is of this kind, by an invariant of the decoder: what was read falls into a
part for which the text stands, and the bytes of the sequence that is open
(`Decoder.Tracks`).

The one thing that could go wrong is a complete sequence whose value is no
character, or is ASCII.  The ranges that the lead byte sets for the next one rule
that out, whatever bytes follow (`Begun.Sound`).

So an ASCII pattern occurs in the text exactly if it occurs in the bytes
(`Stands.infix_iff`): it can neither reach over a character past ASCII nor over the
bytes for which one stands.
-/
import CheckpointMonitor.Text.Utf8
import Mathlib.Data.List.Infix

namespace CheckpointMonitor.Utf8

variable {bytes bytes' piece pattern : List UInt8} {byte : UInt8} {chars chars' : List Char}

/-! ### Characters that stand for bytes -/

/-- The character with the code of the byte. -/
def asciiChar (byte : UInt8) : Char :=
  Char.ofNat byte.toNat

/-- How characters stand for bytes. -/
inductive Stands : List UInt8 → List Char → Prop
  | nil : Stands [] []
  /-- An ASCII byte is read as itself. -/
  | ascii {byte : UInt8} {bytes : List UInt8} {chars : List Char} :
      byte < 0x80 → Stands bytes chars → Stands (byte :: bytes) (asciiChar byte :: chars)
  /-- Any other character takes the place of bytes past ASCII. -/
  | other {piece bytes : List UInt8} {char : Char} {chars : List Char} :
      piece ≠ [] → (∀ byte ∈ piece, 0x80 ≤ byte) → 0x80 ≤ char.toNat →
      Stands bytes chars → Stands (piece ++ bytes) (char :: chars)

theorem Stands.append (h : Stands bytes chars) (h' : Stands bytes' chars') :
    Stands (bytes ++ bytes') (chars ++ chars') := by
  induction h with
  | nil => exact h'
  | ascii hb _ ih => exact .ascii hb ih
  | other hne hp hc _ ih =>
    rw [List.append_assoc]
    exact .other hne hp hc ih

theorem stands_ascii (hb : byte < 0x80) : Stands [byte] [asciiChar byte] :=
  .ascii hb .nil

theorem stands_other {char : Char} (hne : piece ≠ []) (hp : ∀ byte ∈ piece, 0x80 ≤ byte)
    (hc : 0x80 ≤ char.toNat) : Stands piece [char] := by
  have h : Stands (piece ++ []) [char] := .other hne hp hc .nil
  rwa [List.append_nil] at h

/-! ### Patterns in ASCII -/

theorem toNat_asciiChar (byte : UInt8) : (asciiChar byte).toNat = byte.toNat := by
  have hb : byte.toNat < 256 := byte.toNat_lt
  have hv : byte.toNat.isValidChar := Or.inl (by omega)
  rw [asciiChar, Char.ofNat, dif_pos hv]
  rfl

theorem asciiChar_inj {a b : UInt8} : asciiChar a = asciiChar b ↔ a = b := by
  constructor
  · intro h
    have := congrArg Char.toNat h
    rwa [toNat_asciiChar, toNat_asciiChar, UInt8.toNat_inj] at this
  · rintro rfl
    rfl

/-- An ASCII pattern does not begin where a character past ASCII stands. -/
theorem not_prefix_chars {char : Char} (hne : pattern ≠ []) (hp : ∀ b ∈ pattern, b < 0x80)
    (hc : 0x80 ≤ char.toNat) : ¬ pattern.map asciiChar <+: char :: chars := by
  rcases pattern with - | ⟨b, pattern⟩
  · exact absurd rfl hne
  · rw [List.map_cons, List.cons_prefix_cons]
    rintro ⟨rfl, -⟩
    rw [toNat_asciiChar] at hc
    have hb : b < 0x80 := hp b (by simp)
    rw [UInt8.lt_iff_toNat_lt] at hb
    exact absurd hb (Nat.not_lt.mpr hc)

/-- An ASCII pattern does not begin at a byte past ASCII. -/
theorem not_prefix_bytes (hne : pattern ≠ []) (hp : ∀ b ∈ pattern, b < 0x80)
    (hb : 0x80 ≤ byte) : ¬ pattern <+: byte :: bytes := by
  rcases pattern with - | ⟨b, pattern⟩
  · exact absurd rfl hne
  · rw [List.cons_prefix_cons]
    rintro ⟨rfl, -⟩
    exact absurd (hp b (by simp)) (UInt8.not_lt.mpr hb)

/-- An ASCII pattern does not begin in a piece past ASCII. -/
theorem infix_append_iff (hne : pattern ≠ []) (hp : ∀ b ∈ pattern, b < 0x80)
    (hpiece : ∀ byte ∈ piece, 0x80 ≤ byte) :
    pattern <:+: piece ++ bytes ↔ pattern <:+: bytes := by
  induction piece with
  | nil => rfl
  | cons b piece ih =>
    have hb : ¬ pattern <+: b :: (piece ++ bytes) := not_prefix_bytes hne hp (hpiece b (by simp))
    rw [List.cons_append, List.infix_cons_iff, or_iff_right hb]
    exact ih fun x hx => hpiece x (by simp [hx])

theorem Stands.prefix_iff (h : Stands bytes chars) (hp : ∀ b ∈ pattern, b < 0x80) :
    pattern.map asciiChar <+: chars ↔ pattern <+: bytes := by
  induction h generalizing pattern with
  | nil => simp
  | @ascii byte bytes chars hb _ ih =>
    rcases pattern with - | ⟨b, pattern⟩
    · simp
    · rw [List.map_cons, List.cons_prefix_cons, List.cons_prefix_cons, asciiChar_inj,
        ih fun x hx => hp x (by simp [hx])]
  | @other piece bytes char chars hpne hpiece hc _ ih =>
    rcases pattern with - | ⟨b, pattern⟩
    · simp
    · obtain ⟨byte, piece, rfl⟩ := List.exists_cons_of_ne_nil hpne
      exact iff_of_false (not_prefix_chars (by simp) hp hc)
        (not_prefix_bytes (by simp) hp (hpiece byte (by simp)))

/-- **An ASCII pattern occurs in the characters exactly if it occurs in the bytes.** -/
theorem Stands.infix_iff (h : Stands bytes chars) (hne : pattern ≠ [])
    (hp : ∀ b ∈ pattern, b < 0x80) : pattern.map asciiChar <:+: chars ↔ pattern <:+: bytes := by
  induction h with
  | nil => simp
  | ascii hb h ih =>
    rw [List.infix_cons_iff, List.infix_cons_iff, ih, (Stands.ascii hb h).prefix_iff hp]
  | other _ hpiece hc _ ih =>
    rw [List.infix_cons_iff, or_iff_right (not_prefix_chars hne hp hc), ih,
      infix_append_iff hne hp hpiece]

/-! ### Open sequences -/

/-- Whatever `n` bytes follow after these bits, the value is a character past ASCII. -/
def Fits : Nat → Nat → Prop
  | 0, value => 0x80 ≤ value ∧ value.isValidChar
  | n + 1, value => ∀ bits < 64, Fits n (value * 64 + bits)

/-- Whatever bytes go on with the open sequence, it becomes a character past ASCII. -/
structure Begun.Sound (begun : Begun) : Prop where
  low : 0x80 ≤ begun.low
  high : begun.high ≤ 0xBF
  fits : ∀ byte, begun.low ≤ byte → byte ≤ begun.high →
    Fits begun.more (begun.value * 64 + (byte.toNat - 0x80))

theorem Begun.sound_rest {value more : Nat} (h : Fits (more + 1) value) :
    Begun.Sound ⟨value, 0x80, 0xBF, more⟩ := by
  refine ⟨UInt8.le_refl _, UInt8.le_refl _, ?_⟩
  intro byte _ hhigh
  have : byte.toNat ≤ 0xBF := UInt8.le_iff_toNat_le.mp hhigh
  exact h _ (by omega)

/-- A lead byte opens a sequence that can only become a character past ASCII. -/
theorem Begun.sound_of_lead {begun : Begun} (h : Begun.ofLead? byte = some begun) :
    begun.Sound := by
  simp only [Begun.ofLead?, UInt8.lt_iff_toNat_lt, ← UInt8.toNat_inj] at h
  split at h
  · cases h
  split at h
  · -- two bytes
    obtain rfl := Option.some.inj h
    refine ⟨UInt8.le_refl _, UInt8.le_refl _, ?_⟩
    intro next _ hhigh
    rw [UInt8.le_iff_toNat_le] at hhigh
    simp only [Fits, Nat.isValidChar]
    simp only [UInt8.reduceToNat, not_lt] at *
    omega
  split at h
  · -- three bytes: E0 and ED narrow the second one
    obtain rfl := Option.some.inj h
    refine ⟨?_, ?_, ?_⟩
    · dsimp only; split <;> decide
    · dsimp only; split <;> decide
    intro next hlow hhigh bits hbits
    dsimp only at hlow hhigh
    simp only [UInt8.le_iff_toNat_le, apply_ite UInt8.toNat] at hlow hhigh
    simp only [Fits, Nat.isValidChar]
    simp only [UInt8.reduceToNat, not_lt] at *
    split at hlow <;> split at hhigh <;> omega
  split at h
  · -- four bytes: F0 and F4 narrow the second one
    obtain rfl := Option.some.inj h
    refine ⟨?_, ?_, ?_⟩
    · dsimp only; split <;> decide
    · dsimp only; split <;> decide
    intro next hlow hhigh bits hbits bits' hbits'
    dsimp only at hlow hhigh
    simp only [UInt8.le_iff_toNat_le, apply_ite UInt8.toNat] at hlow hhigh
    simp only [Fits, Nat.isValidChar]
    simp only [UInt8.reduceToNat, not_lt] at *
    split at hlow <;> split at hhigh <;> omega
  · cases h

/-! ### The decoder -/

theorem toNat_replacement : 0x80 ≤ replacement.toNat := by decide

theorem toNat_ofNat_of_fits {value : Nat} (h : Fits 0 value) :
    0x80 ≤ (Char.ofNat value).toNat := by
  obtain ⟨hlow, hvalid⟩ := h
  rw [Char.ofNat, dif_pos hvalid]
  exact hlow

/-- What was read falls into a part for which the text stands, and the bytes of the sequence that
is open. -/
structure Decoder.Tracks (d : Decoder) (bytes : List UInt8) : Prop where
  parts : ∃ done pending, bytes = done ++ pending ∧ Stands done d.text.toList ∧
    (∀ byte ∈ pending, 0x80 ≤ byte) ∧ (pending = [] ↔ d.begun = none)
  sound : ∀ begun, d.begun = some begun → begun.Sound

theorem tracks_new : Decoder.Tracks {} [] where
  parts := ⟨[], [], rfl, .nil, nofun, by simp⟩
  sound := nofun

/-- A byte at which no sequence is open. -/
theorem tracks_start {text : String} (h : Stands bytes text.toList) (byte : UInt8) :
    (Decoder.start text byte).Tracks (bytes ++ [byte]) := by
  rw [Decoder.start]
  split
  · next hb =>
    have ht : Stands (bytes ++ [byte]) (text.push (asciiChar byte)).toList := by
      rw [String.toList_push]
      exact h.append (stands_ascii hb)
    exact ⟨⟨_, [], by simp, ht, nofun, by simp⟩, nofun⟩
  · next hb =>
    have hb : 0x80 ≤ byte := UInt8.not_lt.mp hb
    split
    · next begun hlead =>
      refine ⟨⟨bytes, [byte], rfl, h, by simpa using hb, by simp⟩, ?_⟩
      rintro _ ⟨⟩
      exact Begun.sound_of_lead hlead
    · have ht : Stands (bytes ++ [byte]) (text.push replacement).toList := by
        rw [String.toList_push]
        exact h.append (stands_other (by simp) (by simpa using hb) toNat_replacement)
      exact ⟨⟨_, [], by simp, ht, nofun, by simp⟩, nofun⟩

/-- The decoder keeps track of what it reads. -/
theorem Decoder.Tracks.next {d : Decoder} (h : d.Tracks bytes) (byte : UInt8) :
    (d.next byte).Tracks (bytes ++ [byte]) := by
  obtain ⟨⟨done, pending, rfl, ht, hpending, hopen⟩, hsound⟩ := h
  obtain ⟨text, - | begun⟩ := d
  · obtain rfl : pending = [] := hopen.mpr rfl
    rw [List.append_nil]
    exact tracks_start ht byte
  have hne : pending ≠ [] := fun hp => nomatch hopen.mp hp
  have hbegun : begun.Sound := hsound begun rfl
  rw [Decoder.next]
  dsimp only
  split
  · next hrange =>
    -- the byte goes on with the open sequence, or completes it
    have hfits := hbegun.fits byte hrange.1 hrange.2
    generalize begun.value * 64 + (byte.toNat - 0x80) = value at hfits ⊢
    have hpiece : ∀ b ∈ pending ++ [byte], 0x80 ≤ b := by
      intro b hb
      rcases List.mem_append.mp hb with hb | hb
      · exact hpending b hb
      · rw [List.mem_singleton.mp hb]
        exact UInt8.le_trans hbegun.low hrange.1
    split
    · next hmore =>
      rw [hmore] at hfits
      have ht' : Stands (done ++ pending ++ [byte]) (text.push (Char.ofNat value)).toList := by
        rw [String.toList_push, List.append_assoc]
        exact ht.append (stands_other (by simp) hpiece (toNat_ofNat_of_fits hfits))
      exact ⟨⟨_, [], by simp, ht', nofun, by simp⟩, nofun⟩
    · next more hmore =>
      rw [hmore] at hfits
      refine ⟨⟨done, pending ++ [byte], by simp, ht, hpiece, by simp⟩, ?_⟩
      rintro _ ⟨⟩
      exact Begun.sound_rest hfits
  · -- the open sequence is broken, and the byte is read afresh
    have ht' : Stands (done ++ pending) (text.push replacement).toList := by
      rw [String.toList_push]
      exact ht.append (stands_other hne hpending toNat_replacement)
    exact tracks_start ht' byte

/-- A sequence that is open at the end is broken as well. -/
theorem Decoder.Tracks.finish {d : Decoder} (h : d.Tracks bytes) :
    Stands bytes d.finish.toList := by
  obtain ⟨⟨done, pending, rfl, ht, hpending, hopen⟩, -⟩ := h
  obtain ⟨text, - | begun⟩ := d
  · obtain rfl : pending = [] := hopen.mpr rfl
    rw [List.append_nil]
    exact ht
  · have hne : pending ≠ [] := fun hp => nomatch hopen.mp hp
    rw [Decoder.finish, String.toList_push]
    exact ht.append (stands_other hne hpending toNat_replacement)

/-- **The forgiving reading keeps ASCII where it stands.** -/
theorem stands_decodeLossy (bytes : List UInt8) : Stands bytes (decodeLossy bytes).toList := by
  have htracks : (bytes.foldl Decoder.next {}).Tracks bytes := by
    induction bytes using List.reverseRecOn with
    | nil => exact tracks_new
    | append_singleton bytes byte ih =>
      rw [List.foldl_append]
      exact ih.next byte
  exact htracks.finish

end CheckpointMonitor.Utf8

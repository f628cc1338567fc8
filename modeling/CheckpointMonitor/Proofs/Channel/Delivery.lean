/-
CheckpointMonitor/Proofs/Channel/Delivery.lean

What a source delivers, however it is cut into pieces.

A source delivers the bytes that arrive before the first failure for good, and that failure
if there is one.  Waits and failures after which a read is begun again deliver nothing,
and where the pieces end cannot be told from what is delivered.

Every source on which no shutdown is requested is read as if it delivered all at once
(`readLine_atOnce`); so sources with the same delivery are read alike
(`readLine_of_delivery`).
-/
import CheckpointMonitor.Proofs.Channel.Incidents

namespace CheckpointMonitor.Source

variable {source source' : Source} {piece : List UInt8}

/-! ### The delivery of a source -/

/-- The bytes that a source delivers, and the failure with which it ends if it does not end
well. -/
structure Delivery where
  bytes : List UInt8
  failure : Option Fault
  deriving DecidableEq

/-- The delivery with some bytes before it. -/
def Delivery.after (piece : List UInt8) (delivery : Delivery) : Delivery :=
  { delivery with bytes := piece ++ delivery.bytes }

/-- What the source delivers. -/
def delivery : Source → Delivery
  | [] => ⟨[], none⟩
  | .data piece :: later => (delivery later).after piece
  | .pending :: later => delivery later
  | .shutdown :: later => delivery later
  | .failure fault :: later => if fault.isRetried then delivery later else ⟨[], some fault⟩

/-- The source that delivers all bytes in one piece. -/
def atOnce (delivery : Delivery) : Source :=
  .data delivery.bytes :: (delivery.failure.map Arrival.failure).toList

/-- A failure that is delivered is one for good. -/
theorem not_retried_of_delivery {fault : Fault} (h : source.delivery.failure = some fault) :
    fault.isRetried = false := by
  induction source with
  | nil => cases h
  | cons arrival later ih =>
    cases arrival with
    | data piece => exact ih h
    | pending => exact ih h
    | shutdown => exact ih h
    | failure fault' =>
      rw [delivery] at h
      split at h
      · exact ih h
      · next hretried =>
        obtain rfl := Option.some.inj h
        exact Bool.eq_false_iff.mpr hretried

/-- What is delivered at once is delivered. -/
theorem delivery_atOnce (source : Source) (bytes : List UInt8) :
    (atOnce (source.delivery.after bytes)).delivery = source.delivery.after bytes := by
  have hfailure := @not_retried_of_delivery source
  rw [Delivery.after, atOnce]
  -- the failure is delivered again only because it is one for good
  rcases hdelivery : source.delivery.failure with - | fault
  · show Delivery.mk (_ ++ []) none = _
    rw [List.append_nil]
  · show (delivery [.failure fault]).after _ = _
    rw [delivery, hfailure hdelivery]
    show Delivery.mk (_ ++ []) (some fault) = _
    rw [List.append_nil]

/-- Requests to shut down deliver nothing. -/
theorem delivery_calm (source : Source) : source.calm.delivery = source.delivery := by
  induction source with
  | nil => rfl
  | cons arrival later ih =>
    cases arrival with
    | data piece => exact congrArg (Delivery.after piece) ih
    | pending => exact ih
    | shutdown => exact ih
    | failure fault =>
      show (delivery (.failure fault :: calm later)) = _
      rw [delivery, delivery, ih]

/-! ### Reading what is delivered -/

/-- A reading that does not fail takes the first of the bytes that are delivered. -/
theorem delivery_readLine {shutdown : Bool} (h : ∀ fault, (readLine shutdown source).ending ≠ .failed fault) :
    source.delivery
      = (readLine shutdown source).rest.delivery.after (readLine shutdown source).taken := by
  fun_induction readLine shutdown source with
  | case1 => rfl
  | case2 shutdown piece later byte left hdrop =>
    -- the line ends in this piece, at the first byte that is dropped
    have hpiece : piece = piece.takeWhile (· != lineFeed) ++ [lineFeed] ++ left := by
      have hbytes := bytes_readLine shutdown [.data piece]
      rw [readLine, hdrop] at hbytes
      simpa only [bytes, Read.taken, List.append_nil] using hbytes
    show Delivery.mk (piece ++ (delivery later).bytes) _
      = Delivery.mk (piece.takeWhile (· != lineFeed) ++ [lineFeed] ++ (left ++ (delivery later).bytes)) _
    rw [← List.append_assoc, ← hpiece]
    rfl
  | case3 shutdown piece later hdrop ih =>
    rw [delivery, ih h, Read.taken_after, Read.rest_after, Delivery.after, Delivery.after, Delivery.after,
      List.append_assoc]
  | case4 => rfl
  | case5 shutdown later _ ih => exact ih h
  | case6 shutdown later ih => exact ih h
  | case7 shutdown fault later hretried ih =>
    rw [delivery, if_pos hretried]
    exact ih h
  | case8 shutdown fault later _ => exact absurd rfl (h fault)

/-- A line that was read to its end is the first of those that are delivered. -/
theorem lines_delivery_of_complete {shutdown : Bool} (h : (readLine shutdown source).Complete) :
    Text.lines source.delivery.bytes
      = (readLine shutdown source).bytes :: Text.lines (readLine shutdown source).rest.delivery.bytes := by
  have hfailed : ∀ fault, (readLine shutdown source).ending ≠ .failed fault := by
    rcases h with hend | ⟨hend, -⟩ <;> rw [hend] <;> exact fun _ => Ending.noConfusion
  have hline := lineFeed_notMem_readLine shutdown source
  rw [delivery_readLine hfailed, Delivery.after]
  rcases h with hend | ⟨hend, hne⟩
  · rw [Read.taken, hend, List.append_assoc, List.singleton_append, Text.lines_line hline]
  · rw [Read.taken, hend, rest_of_exhausted hend, delivery, List.append_nil, Text.lines_last hne hline,
      Text.lines_nil]

/-- A line goes on over the end of a piece. -/
theorem readLine_data_append (hopen : piece.dropWhile (· != lineFeed) = []) (bytes : List UInt8)
    (later : Source) :
    readLine false (.data (piece ++ bytes) :: later)
      = (readLine false (.data bytes :: later)).after piece := by
  have hall : ∀ byte ∈ piece, (byte != lineFeed) = true := List.dropWhile_eq_nil_iff.mp hopen
  rw [readLine, readLine, List.dropWhile_append, hopen, List.takeWhile_append_of_pos hall]
  simp only [List.isEmpty_nil, if_true]
  rcases bytes.dropWhile (· != lineFeed) with - | ⟨byte, left⟩
  · rw [Read.after, Read.after, Read.after, List.append_assoc]
  · rfl

/-- **A source is read as if it delivered all at once,** line by line. -/
theorem readLine_atOnce (h : source.requests = 0) :
    (readLine false source).bytes = (readLine false (atOnce source.delivery)).bytes ∧
      (readLine false source).ending = (readLine false (atOnce source.delivery)).ending ∧
      ((readLine false source).ending = .lineFeed →
        (readLine false source).rest.delivery
          = (readLine false (atOnce source.delivery)).rest.delivery) := by
  induction source with
  | nil => exact ⟨rfl, rfl, fun _ => rfl⟩
  | cons arrival later ih =>
    cases arrival with
    | data piece =>
      have hdelivery : delivery (.data piece :: later) = (delivery later).after piece := rfl
      rw [hdelivery, atOnce]
      rcases hdrop : piece.dropWhile (· != lineFeed) with - | ⟨byte, left⟩
      · -- the line goes on after the piece
        obtain ⟨hbytes, hending, hrest⟩ := ih (by rwa [requests_data] at h)
        have hread : readLine false (.data piece :: later) = (readLine false later).after piece := by
          rw [readLine, hdrop]
        rw [hread, Delivery.after, readLine_data_append hdrop]
        exact ⟨congrArg (piece ++ ·) hbytes, hending, hrest⟩
      · -- the line ends in the piece
        have hne : (piece.dropWhile (· != lineFeed)).isEmpty = false := by rw [hdrop]; rfl
        have htake : (piece ++ (delivery later).bytes).takeWhile (· != lineFeed)
            = piece.takeWhile (· != lineFeed) := by
          rw [List.takeWhile_append, if_neg]
          intro hlength
          have hall := List.takeWhile_append_dropWhile (p := (· != lineFeed)) (l := piece)
          have := congrArg List.length hall
          rw [hdrop, List.length_append, List.length_cons] at this
          omega
        rw [readLine, hdrop, Delivery.after, readLine, List.dropWhile_append, hne, hdrop]
        refine ⟨htake.symm, rfl, fun _ => ?_⟩
        exact (delivery_atOnce later left).symm
    | pending =>
      rw [requests_pending] at h
      exact ih h
    | shutdown =>
      rw [requests_shutdown] at h
      cases h
    | failure fault =>
      rw [requests_failure] at h
      rcases hretried : fault.isRetried with - | -
      · have hread : ∀ later, readLine false (.failure fault :: later) = ⟨[], .failed fault, false, later⟩ := by
          intro later
          rw [readLine, hretried]
          rfl
        have hdelivery : delivery (.failure fault :: later) = ⟨[], some fault⟩ := by
          rw [delivery, hretried]
          rfl
        have hatOnce : readLine false (atOnce ⟨[], some fault⟩) = ⟨[], .failed fault, false, []⟩ := by
          show (readLine false [.failure fault]).after [] = _
          rw [hread]
          rfl
        rw [hread, hdelivery, hatOnce]
        refine ⟨rfl, rfl, ?_⟩
        intro hend
        cases hend
      · rw [readLine, delivery, hretried]
        exact ih h

/-- **Sources with the same delivery are read alike,** as long as no shutdown is requested. -/
theorem readLine_of_delivery (h : source.requests = 0) (h' : source'.requests = 0)
    (hdelivery : source.delivery = source'.delivery) :
    (readLine false source).bytes = (readLine false source').bytes ∧
      (readLine false source).ending = (readLine false source').ending ∧
      ((readLine false source).Complete →
        (readLine false source).rest.delivery = (readLine false source').rest.delivery) := by
  obtain ⟨hbytes, hending, hrest⟩ := readLine_atOnce h
  obtain ⟨hbytes', hending', hrest'⟩ := readLine_atOnce h'
  rw [← hdelivery] at hbytes' hending' hrest'
  refine ⟨hbytes.trans hbytes'.symm, hending.trans hending'.symm, ?_⟩
  rintro (hend | ⟨hend, -⟩)
  · rw [hrest hend, hrest' (hending'.trans (hending.symm.trans hend))]
  · have hend' := (hending.trans hending'.symm).symm.trans hend
    rw [rest_of_exhausted hend, rest_of_exhausted hend']

end CheckpointMonitor.Source

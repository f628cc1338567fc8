/-
CheckpointMonitor/Proofs/FileTree.lean

What a file delivers.

Whatever stands under a path can be opened, and what the source delivers is known from what stands there
(`FileTree.Node.delivery`): the content of a file, of a broken one what comes before the failure and then
the failure, and of a directory a failure at once.  No shutdown is requested on such a source
(`Files.source_of_node`).
-/
import CheckpointMonitor.FileTree
import CheckpointMonitor.Proofs.Channel.Delivery

namespace CheckpointMonitor

/-- What is delivered by what stands under a name, once it is opened. -/
def FileTree.Node.delivery : Node → Source.Delivery
  | file content => ⟨content, none⟩
  | broken content fault _ => ⟨content, some fault⟩
  | directory => ⟨[], some AccessError.isDirectory.fault⟩

theorem Source.delivery_data (content : List UInt8) : delivery [.data content] = ⟨content, none⟩ := by
  rw [delivery, delivery, Delivery.after, List.append_nil]

/-- A failure for good is delivered after what came before it. -/
theorem Source.delivery_of_final {fault : Fault} (final : fault.isRetried = false) (content : List UInt8) :
    delivery [.data content, .failure fault] = ⟨content, some fault⟩ := by
  have hfault : delivery [.failure fault] = ⟨[], some fault⟩ := by
    rw [delivery, if_neg (Bool.not_eq_true _ ▸ final)]
  rw [delivery, hfault, Delivery.after, List.append_nil]

/-- **What can be opened delivers what stands there.** -/
theorem Files.source_of_node {files : Files} {path : String} {node : FileTree.Node} (h : files path = .ok node) :
    ∃ source, files.source path = .ok source ∧ source.requests = 0 ∧ source.delivery = node.delivery := by
  rw [Files.source, h]
  cases node with
  | file content => exact ⟨_, rfl, rfl, Source.delivery_data content⟩
  | broken content fault final => exact ⟨_, rfl, rfl, Source.delivery_of_final final content⟩
  | directory => exact ⟨_, rfl, rfl, rfl⟩

end CheckpointMonitor

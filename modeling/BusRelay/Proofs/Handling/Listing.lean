import BusRelay.Handling.Fault
import BusRelay.Proofs.Text.Quoted
/-!
# What the text of a batch lists

The text of a batch is a row of quoted messages, one for each event that was not taken. Names of events and reasons
of a sink may hold quotes, commas, brackets or whatever else; still the text falls into its entries in one way only,
so that none is hidden, added or put together with another (`batch_listed`).
-/

namespace BusRelay

namespace Undelivered

variable (batch : List Undelivered)

theorem batchMessage_eq : batchMessage batch = Quoted.brackets ((batch.map message).map Quoted.quote) := by
  rw [batchMessage, List.map_map]
  rfl

/-- A row of quoted texts is the text of a batch just if its texts are the messages of the batch. -/
theorem batchMessage_eq_iff (entries : List String) :
    batchMessage batch = Quoted.brackets (entries.map Quoted.quote) ↔ entries = batch.map message := by
  rw [batchMessage_eq, Quoted.brackets_quote_inj, eq_comm]

end Undelivered

namespace HandlingFault

theorem text_undelivered (batch : List Undelivered) :
    text (.undelivered batch) = "sending events to the sink: " ++ Undelivered.batchMessage batch := rfl

theorem text_undelivered_iff (batch : List Undelivered) (row : String) :
    text (.undelivered batch) = "sending events to the sink: " ++ row ↔ Undelivered.batchMessage batch = row := by
  rw [text_undelivered, ← String.toList_inj, String.toList_append, String.toList_append, List.append_cancel_left_eq,
    String.toList_inj]

end HandlingFault

/-- **A batch is listed.** Two batches have the same text just if their events failed with the same messages, in the
same order, and the text of a batch is a row of quoted texts in one way: its entries are these messages, as many as
events were not taken. The same holds of the text of the fault that a batch makes the handling end with. -/
theorem batch_listed (batch other : List Undelivered) :
    (Undelivered.batchMessage batch = Undelivered.batchMessage other ↔
      batch.map Undelivered.message = other.map Undelivered.message) ∧
    (∀ entries : List String, Undelivered.batchMessage batch = Quoted.brackets (entries.map Quoted.quote) ↔
      entries = batch.map Undelivered.message) ∧
    (HandlingFault.text (.undelivered batch) = HandlingFault.text (.undelivered other) ↔
      batch.map Undelivered.message = other.map Undelivered.message) ∧
    ∀ entries : List String, HandlingFault.text (.undelivered batch) =
      "sending events to the sink: " ++ Quoted.brackets (entries.map Quoted.quote) ↔
        entries = batch.map Undelivered.message := by
  have told : Undelivered.batchMessage batch = Undelivered.batchMessage other ↔
      batch.map Undelivered.message = other.map Undelivered.message := by
    rw [Undelivered.batchMessage_eq other, Undelivered.batchMessage_eq_iff, eq_comm]
  refine ⟨told, Undelivered.batchMessage_eq_iff batch, ?_, fun entries => ?_⟩
  · rw [← told, HandlingFault.text_undelivered other, HandlingFault.text_undelivered_iff]
  · rw [HandlingFault.text_undelivered_iff, Undelivered.batchMessage_eq_iff]

/-- A name that looks like the end of an entry and the beginning of another is part of one entry. -/
example : Undelivered.batchMessage [⟨"a\", \"b", .timeout⟩] =
    "[\"failed to send event with ID a\\\", \\\"b: timeout\"]" := by
  decide +kernel

end BusRelay

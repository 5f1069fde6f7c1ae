import ExchangeTap.Proofs.Message.Lines
import ExchangeTap.Proofs.Message.Saving
import ExchangeTap.Proofs.Output.Printing

namespace ExchangeTap

namespace Replay

/-- What is published for a received message: the fields that are given stand in for its own. -/
def Options.outbound (options : Options) (message : Received) : Outbound where
  exchange := options.exchange.getD message.delivery.exchange
  routingKey := options.routingKey.getD message.delivery.routingKey
  properties := { message.delivery.properties with
    contentType := options.contentType.or message.delivery.properties.contentType }
  body := message.delivery.body

@[simp] theorem withContentType_eq (contentType : Option String) (message : Outbound) :
    withContentType contentType message =
      { message with properties.contentType := contentType.or message.properties.contentType } := by
  cases contentType <;> rfl

end Replay

/-- What a received message can hold, with no floating-point numbers in its headers, and nested no deeper
than JSON is read. -/
structure Received.Replayable (message : Received) : Prop where
  told : message.receivedAt.Told
  exact : message.delivery.properties.Exact
  nested : (SavedMessage.codec.write (.ofReceived message)).depth ≤ Json.depthLimit

def Received.line (message : Received) : List Char :=
  (SavedMessage.codec.write (.ofReceived message)).compactChars

theorem Received.line_not_blank (message : Received) : message.line.all isBlank = false := rfl

namespace Received.Replayable

variable {message : Received}

theorem reads (replayable : message.Replayable) :
    SavedMessage.codec.Reads (.ofReceived message) (SavedMessage.ofReceived message).settled :=
  SavedMessage.reads (fun _ here => Option.some.inj here ▸ replayable.told) replayable.exact

theorem readLine (replayable : message.Replayable) (options : Replay.Options) :
    Replay.readLine options message.line = some (options.outbound message) := by
  rw [Replay.readLine, Received.line, replayable.reads.decodeChars replayable.nested]
  dsimp only
  rw [SavedMessage.toOutbound_settled]
  simp only [SavedMessage.toOutbound, SavedMessage.ofReceived, Base64.decode_encode, Option.map_some,
    Replay.withContentType_eq]
  rfl

private theorem least_of_line (replayable : message.Replayable) :
    ∀ byte ∈ Utf8.encodeChars message.line, 32 ≤ byte.toNat :=
  Utf8.least_of_encodeChars (Json.plain_compactChars _ replayable.reads.exact)

end Received.Replayable

private theorem Received.encode_render (message : Received) :
    Utf8.encode (OutputFormat.jsonLines.render message) = Utf8.encodeChars message.line ++ [10] := by
  have feed : Utf8.encodeChars ['\n'] = [10] := by decide
  rw [OutputFormat.render, Utf8.encode, String.toList_append, Utf8.encodeChars_append,
    Json.Codec.encode, Json.compact, String.toList_ofList]
  exact congrArg (_ ++ ·) feed

private theorem Received.encode_join (messages : List Received) :
    Utf8.encode (String.join (messages.map (OutputFormat.jsonLines.render ·))) =
      (messages.map fun message => Utf8.encodeChars message.line).flatMap (· ++ [10]) := by
  rw [Utf8.encode, String.toList_join]
  induction messages with
  | nil => rfl
  | cons message rest ih =>
      have first := encode_render message
      rw [Utf8.encode] at first
      rw [List.map_cons, List.flatMap_cons, Utf8.encodeChars_append, first, ih]
      rfl

namespace Replay

variable {messages : List Received}

private theorem readLines_encodeChars (options : Options) (number : Int32)
    (replayable : ∀ message ∈ messages, message.Replayable) :
    readLines options number (messages.map fun message => Utf8.encodeChars message.line) =
      .ok (messages.map options.outbound) := by
  induction messages generalizing number with
  | nil => rfl
  | cons message rest ih =>
      have first := replayable message (by simp)
      have others := ih (number + 1) fun message here => replayable message (by simp [here])
      rw [List.map_cons, readLines, Utf8.decodeChars_eq_ok_iff.mpr rfl]
      simp only [Received.line_not_blank, first.readLine, others, Bool.false_eq_true, if_false]
      rfl

/-- All messages of a printed session are read, in order, and only the given fields are others. -/
theorem printed_session_replayed {options : Options} (asLines : options.jsonLines = true)
    {directory : Option Directory} {printer : Printer}
    (created : Printer.create .jsonLines directory = .ok printer)
    (replayable : ∀ message ∈ messages, message.Replayable) :
    ∃ printed : Printer, printer.consume (messages.map .delivered) = (.ok (), printed) ∧
      read options (Utf8.encode printed.text) = .ok (messages.map options.outbound) := by
  obtain ⟨ready, format, fresh⟩ := Printer.ready_of_create created
  obtain ⟨printed, consumed, texts⟩ := ready.consume messages
  refine ⟨printed, consumed, ?_⟩
  have text : Utf8.encode printed.text =
      (messages.map fun message => Utf8.encodeChars message.line).flatMap (· ++ [10]) := by
    rw [Printer.text, texts, fresh, format, List.nil_append, Received.encode_join]
  -- Line feeds and carriage returns inside of texts are escaped, so no line is cut in two.
  have plain : ∀ word ∈ messages.map fun message => Utf8.encodeChars message.line,
      ∀ byte ∈ word, 32 ≤ byte.toNat := by
    intro word here
    obtain ⟨message, among, rfl⟩ := List.mem_map.mp here
    exact (replayable message among).least_of_line
  have cut := lines_flatMap (fun word here broken => absurd (plain word here 10 broken) (by decide))
    (fun word here broken => absurd (plain word here 13 broken) (by decide))
  rw [read, if_pos asLines, text, cut]
  exact readLines_encodeChars options 1 replayable

/-- A message in a leap second with a nested header and a body that is no text, and a bare one; they are
published to another exchange. -/
theorem printed_session_replayed_elsewhere :
    let first : Received := ⟨⟨"orders", "eu.\x01\"new\"", true, 7,
      { Properties.empty with
        priority := some 255
        headers := [("trail", .list [.object [("at", .integer (-(2 ^ 63)))], .null]), ("é", .text "\n")] },
      [0, 255, 10]⟩, ⟨1483228799, 1500000000⟩⟩
    let second : Received := ⟨⟨"", "", false, 0, .empty, []⟩, ⟨0, 0⟩⟩
    let options : Options := ⟨true, some "archive", none, some "text/plain"⟩
    ∃ printed : Printer, Printer.consume ⟨.jsonLines, [], none⟩ [.delivered first, .delivered second] =
        (.ok (), printed) ∧
      read options (Utf8.encode printed.text) = .ok
        [⟨"archive", "eu.\x01\"new\"",
          { first.delivery.properties with contentType := some "text/plain" }, [0, 255, 10]⟩,
        ⟨"archive", "", { Properties.empty with contentType := some "text/plain" }, []⟩] := by
  intro first second options
  have firstExact : first.delivery.properties.Exact := by
    refine ⟨by simp [first, Properties.empty], by simp [first], by simp [first, Properties.empty],
      ⟨fun n here => ?_, ?_, fun members here => ?_⟩, ?_⟩
    · have lowest : n = -(2 ^ 63) := by
        simpa [first, Json.integer] using here
      subst lowest
      decide
    · simp [first, Json.integer]
    · have either : members = first.delivery.properties.headers ∨
          members = [("at", .integer (-(2 ^ 63)))] := by
        simpa [first, Json.integer] using here
      rcases either with rfl | rfl <;> decide
    · simp [first, Json.integer]
  have secondExact : second.delivery.properties.Exact := by
    refine ⟨?_, ?_, ?_, ⟨?_, ?_, ?_⟩, ?_⟩ <;>
      simp [second, Properties.empty, Keyed.Sorted]
  have firstReplayable : first.Replayable :=
    ⟨⟨by decide, by decide, by decide⟩, firstExact, by decide⟩
  have secondReplayable : second.Replayable :=
    ⟨⟨by decide, by decide, by decide⟩, secondExact, by decide⟩
  have replayable : ∀ message ∈ [first, second], message.Replayable := by
    simp [firstReplayable, secondReplayable]
  exact printed_session_replayed rfl (show Printer.create .jsonLines none = .ok _ from rfl) replayable

end Replay

end ExchangeTap

import BoxLang.Proofs.Engine.Bounds
import BoxLang.Proofs.Reader.Evidence

/-!
# What a host is told about a text

A text that is not a program is answered with one diagnostic, and the diagnostic has the place of
the fault that the text really has.
-/

namespace BoxLang

/-- The error of a text that is not a program is true to the text: it covers whole characters,
which are as the error says, and it covers none only at the end of the text.  The engine hands it
on as one diagnostic of the same place, with the text. -/
theorem parseWithin_error_faithful {engine : Engine} {source : String} {error : ParseError}
    (failed : parseWithin engine.maxDepth source = .error error) :
    error.source = source ∧
    (error.span.start ≤ error.span.stop ∧ error.span.stop ≤ source.utf8ByteSize) ∧
    error.toFault.IsFaithful source.toList ∧
    (error.span.start = error.span.stop →
      error.span = .point source.utf8ByteSize ∧
        ((∃ expected, error.kind = .unexpectedEnd expected) ∨
          ∃ depth limit, error.kind = .maxDepthExceeded depth limit)) ∧
    ∃ diagnostic, engine.compile source = .error (.compilation [diagnostic] source) ∧
      diagnostic.span = error.span ∧ diagnostic.severity = .error := by
  obtain ⟨refused, source_eq⟩ := parseWithin_error_iff_read.mp failed
  have faithful := Reader.isFaithful_of_read refused
  rw [← String.utf8Len_toList]
  refine ⟨source_eq, ⟨faithful.start_le_stop, faithful.stop_le⟩, faithful, faithful.of_empty,
    error.diagnostic, ?_, rfl, rfl⟩
  rw [Engine.compile_of_failed failed, Error.ofParseError, source_eq]

/-- A string that is open after a letter of two bytes, and a value that is missing. -/
theorem parseWithin_error_faithful_two_texts :
    (parseWithin Engine.standard.maxDepth "\x7b'é';\"b" =
        .error ⟨⟨.unterminatedString, ⟨6, 8⟩⟩, "\x7b'é';\"b"⟩ ∧
      (Fault.mk .unterminatedString ⟨6, 8⟩).IsFaithful "\x7b'é';\"b".toList ∧
      ∃ diagnostic, Engine.standard.compile "\x7b'é';\"b" =
          .error (.compilation [diagnostic] "\x7b'é';\"b") ∧
        diagnostic.span = ⟨6, 8⟩ ∧ diagnostic.severity = .error) ∧
    parseWithin Engine.standard.maxDepth "a =" =
        .error ⟨⟨.unexpectedEnd Reader.Context.expectedValue, ⟨3, 3⟩⟩, "a ="⟩ ∧
      Span.mk 3 3 = .point "a =".utf8ByteSize := by
  have openString : parseWithin Engine.standard.maxDepth "\x7b'é';\"b" =
      .error ⟨⟨.unterminatedString, ⟨6, 8⟩⟩, "\x7b'é';\"b"⟩ := rfl
  have noValue : parseWithin Engine.standard.maxDepth "a =" =
      .error ⟨⟨.unexpectedEnd Reader.Context.expectedValue, ⟨3, 3⟩⟩, "a ="⟩ := rfl
  obtain ⟨-, -, faithful, -, diagnosed⟩ := parseWithin_error_faithful openString
  obtain ⟨-, -, -, of_empty, -⟩ := parseWithin_error_faithful noValue
  exact ⟨⟨openString, faithful, diagnosed⟩, noValue, (of_empty rfl).1⟩

end BoxLang

import OrderedStore.Cli.Codec
import OrderedStore.Proofs.Text.Base64.Writing
import OrderedStore.Proofs.Text.Escaped

/-!
# Keys and values both ways

In base64 an argument and what is printed for its bytes are one text, so the two directions
undo each other.  Plain output can always be told apart, but it is the argument that it
would have to be only where nothing had to be escaped.  `codec_laws` puts both together.
-/

set_option autoImplicit false

namespace OrderedStore.Cli

namespace Codec

variable {text other : String} {bytes : Bytes}

/-- A base64 argument is what its bytes are printed as. -/
theorem render_of_decode (h : Codec.base64.decode text = .ok bytes) :
    Codec.base64.render bytes = text := by
  change (Text.Base64.decode (utf8 text)).mapError Complaint.base64 = .ok bytes at h
  cases hdecode : Text.Base64.decode (utf8 text) with
  | error fault =>
    rw [hdecode] at h
    exact nomatch h
  | ok found =>
    rw [hdecode] at h
    obtain rfl := Except.ok.inj h
    exact Text.Base64.ofList_encode hdecode

/-- Two base64 arguments that stand for the same bytes are one text. -/
theorem decode_inj (h : Codec.base64.decode text = .ok bytes)
    (hother : Codec.base64.decode other = .ok bytes) : text = other :=
  (render_of_decode h).symm.trans (render_of_decode hother)

/-- What is printed in base64 is accepted as an argument for its bytes. -/
theorem decode_render (bytes : Bytes) :
    Codec.base64.decode (Codec.base64.render bytes) = .ok bytes := by
  show (Text.Base64.decode (utf8 (String.ofList _))).mapError Complaint.base64 = .ok bytes
  rw [Text.Base64.utf8_encode, Text.Base64.decode_encode]
  rfl

end Codec

/-- In base64 printing and reading arguments undo each other, and what is printed has the
standard form.  Plain output is printable ASCII off which its bytes can be read again, so
different bytes are printed differently; as an argument it stands for its bytes exactly if
none of them has been escaped. -/
theorem codec_laws :
    (∀ bytes, Codec.base64.decode (Codec.base64.render bytes) = .ok bytes) ∧
    (∀ text bytes, Codec.base64.decode text = .ok bytes → Codec.base64.render bytes = text) ∧
    (∀ text other bytes, Codec.base64.decode text = .ok bytes →
      Codec.base64.decode other = .ok bytes → text = other) ∧
    (∀ bytes, ∃ values padding,
      Text.Base64.Forms bytes (utf8 (Codec.base64.render bytes)) values padding) ∧
    Function.Injective Codec.plain.render ∧
    (∀ bytes, Text.unescape (Codec.plain.render bytes).toList = some bytes) ∧
    (∀ bytes, ∀ c ∈ (Codec.plain.render bytes).toList, Text.Printable c) ∧
    (∀ bytes, Codec.plain.decode (Codec.plain.render bytes) = .ok bytes ↔
      ∀ b ∈ bytes, Text.Literal b) := by
  refine ⟨Codec.decode_render, fun _ _ => Codec.render_of_decode,
    fun _ _ _ => Codec.decode_inj, fun bytes => ?_, Text.escape_injective, Text.unescape_escape,
    Text.printable_escape, fun bytes => ?_⟩
  · obtain ⟨values, padding, hforms⟩ := Text.Base64.forms_encode bytes
    have hbytes : utf8 (Codec.base64.render bytes) = Text.Base64.encode bytes :=
      Text.Base64.utf8_encode bytes
    exact ⟨values, padding, hbytes ▸ hforms⟩
  · have hread : Codec.plain.decode (Codec.plain.render bytes) = .ok bytes ↔
        utf8 (Text.escape bytes) = bytes := ⟨Except.ok.inj, congrArg Except.ok⟩
    exact hread.trans (Text.utf8_escape_eq_iff bytes)

end OrderedStore.Cli

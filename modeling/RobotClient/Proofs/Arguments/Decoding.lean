import RobotClient.Arguments.Reader
import RobotClient.Proofs.Except
import RobotClient.Proofs.Text.Decoding

set_option autoImplicit false

/-! # Arguments that decode

Raw arguments decode one by one, and the first that is no text fails them all. Main statement:
`decodeArguments_eq_iff`. -/

namespace RobotClient

/-! ## One by one -/

/-- The texts of raw arguments, one by one. -/
def Decoded (raw : List (List UInt8)) (texts : List String) : Prop :=
  List.Forall₂ (fun octets text => Text.Utf8.decode octets = .ok text) raw texts

/-- The defect of the first raw argument that is not text. -/
def FirstUndecodable (raw : List (List UInt8)) (defect : Text.Utf8.Defect) : Prop :=
  ∃ front octets rest, raw = front ++ octets :: rest ∧
    (∃ texts, Decoded front texts) ∧ Text.Utf8.decode octets = .error defect

theorem decodeArguments_eq_ok_iff {raw : List (List UInt8)} {texts : List String} :
    decodeArguments raw = .ok texts ↔ Decoded raw texts := by
  rw [decodeArguments, mapM_eq_ok, Decoded]
  simp only [mapError_eq_ok]

theorem decodeArguments_eq_error_iff {raw : List (List UInt8)} {e : ClientError} :
    decodeArguments raw = .error e ↔ ∃ defect, e = .undecodable defect ∧
      FirstUndecodable raw defect := by
  rw [decodeArguments, mapM_eq_error]
  simp only [FirstError, FirstUndecodable, Decoded, exists_forall₂_iff, mapError_eq_ok,
    mapError_eq_error]
  constructor
  · rintro ⟨front, octets, rest, hraw, hfront, defect, hdefect, he⟩
    exact ⟨defect, he, front, octets, rest, hraw, hfront, hdefect⟩
  · rintro ⟨defect, he, front, octets, rest, hraw, hfront, hdefect⟩
    exact ⟨front, octets, rest, hraw, hfront, defect, hdefect, he⟩

/-! ## All of them -/

open Text.Utf8 (encode IsText Locates)

theorem decoded_iff {raw : List (List UInt8)} {texts : List String} :
    Decoded raw texts ↔ raw = texts.map encode := by
  induction raw generalizing texts with
  | nil => simp [Decoded]
  | cons octets raw ih =>
    rw [Decoded, List.forall₂_cons_left_iff]
    constructor
    · rintro ⟨text, texts, htext, htexts, rfl⟩
      rw [List.map_cons, Text.Utf8.decode_eq_ok_iff.1 htext, ih.1 htexts]
    · intro h
      cases texts with
      | nil => exact absurd h (by simp)
      | cons text texts =>
        obtain ⟨rfl, htexts⟩ := List.cons.inj h
        exact ⟨text, texts, Text.Utf8.decode_encode text, ih.2 htexts, rfl⟩

theorem exists_decoded_iff {raw : List (List UInt8)} :
    (∃ texts, Decoded raw texts) ↔ ∀ octets ∈ raw, IsText octets := by
  simp only [Decoded, exists_forall₂_iff, Text.Utf8.decode_eq_ok_iff]
  rfl

theorem firstUndecodable_iff {raw : List (List UInt8)} {defect : Text.Utf8.Defect} :
    FirstUndecodable raw defect ↔ ∃ front octets rest, raw = front ++ octets :: rest ∧
      (∀ octets' ∈ front, IsText octets') ∧ Locates octets defect := by
  simp only [FirstUndecodable, exists_decoded_iff, Text.Utf8.decode_eq_error_iff]

/-- **Decoding arguments is the inverse of encoding them.** Raw arguments decode to texts exactly if
they are the octets of these texts. All others fail at the first argument that is no text; the
failure tells the length of the longest text in front of it, and whether what is left of it could be
completed. -/
theorem decodeArguments_eq_iff (raw : List (List UInt8)) :
    (∀ texts, decodeArguments raw = .ok texts ↔ raw = texts.map encode) ∧
    ∀ e, decodeArguments raw = .error e ↔
      ∃ front octets rest defect, raw = front ++ octets :: rest ∧
        (∀ octets' ∈ front, IsText octets') ∧ Locates octets defect ∧
        e = .undecodable defect := by
  constructor
  · intro texts
    rw [decodeArguments_eq_ok_iff, decoded_iff]
  · intro e
    rw [decodeArguments_eq_error_iff]
    constructor
    · rintro ⟨defect, rfl, hfirst⟩
      obtain ⟨front, octets, rest, hraw, hfront, hdefect⟩ := firstUndecodable_iff.1 hfirst
      exact ⟨front, octets, rest, defect, hraw, hfront, hdefect, rfl⟩
    · rintro ⟨front, octets, rest, defect, hraw, hfront, hdefect, rfl⟩
      exact ⟨defect, rfl, firstUndecodable_iff.2 ⟨front, octets, rest, hraw, hfront, hdefect⟩⟩

end RobotClient

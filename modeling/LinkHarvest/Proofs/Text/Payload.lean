import LinkHarvest.Proofs.Text.Base64

/-!
# The two tolerant readings of base64

A body and the payload of a link are read as base64 in two ways. For a body, the first alphabet that
gives bytes decides, and these bytes have to be UTF-8; for a payload, an alphabet that gives other
bytes is passed over. The two readings agree wherever there is anything to read
(`decodeBody?_eq_decodeText?`): an alphabet that is passed over is followed by no other bytes, since
the URL-safe reading of a text that the standard one knows gives the same (`decode?_standard`).
Without anything to read they differ: an empty body is not base64, an empty payload the empty text.
-/

namespace LinkHarvest.Base64

variable {t : Text} {bytes : Bytes}

theorem decode?_urlSafe_of_standard (h : decode? .standard t = some bytes) :
    decode? .urlSafe t = some bytes := by
  rcases decode?_standard t with hnone | hsame
  · rw [hnone] at h
    cases h
  · rw [← hsame, h]

theorem decodeText?_eq (t : Text) :
    decodeText? t = (decode? .urlSafe (completed (compact t))).bind Utf8.decode? := by
  unfold decodeText?
  dsimp only
  rcases decode?_standard (completed (compact t)) with hnone | hsame
  · simp [hnone]
  · rw [hsame]
    cases (decode? .urlSafe (completed (compact t))).bind Utf8.decode? <;> rfl

/-- For a body as well, as long as there is something to read. -/
theorem decodeBody?_eq (t : Text) : decodeBody? t =
    if (compact t).isEmpty then none
    else (decode? .urlSafe (completed (compact t))).bind Utf8.decode? := by
  unfold decodeBody?
  dsimp only
  split
  · rfl
  · rcases decode?_standard (completed (compact t)) with hnone | hsame
    · rw [hnone]
      cases decode? .urlSafe (completed (compact t)) <;> rfl
    · rw [hsame]
      cases decode? .urlSafe (completed (compact t)) <;> rfl

theorem readings_of_empty (h : compact t = []) :
    decodeBody? t = none ∧ decodeText? t = some [] := by
  rw [decodeBody?_eq, decodeText?_eq, h]
  exact ⟨rfl, rfl⟩

/-- **The two readings agree** on every text with something to read: they give the same text, they
refuse the same texts, and where the bytes of the standard alphabet are not UTF-8, the URL-safe
alphabet has no text to offer either. -/
theorem decodeBody?_eq_decodeText? (t : Text) (h : compact t ≠ []) :
    (∀ s, decodeBody? t = some s ↔ decodeText? t = some s) ∧
      (decodeBody? t = none ↔ decodeText? t = none) ∧
      ∀ bytes, decode? .standard (completed (compact t)) = some bytes →
        Utf8.decode? bytes = none →
          (decode? .urlSafe (completed (compact t))).bind Utf8.decode? = none := by
  have hsame : decodeBody? t = decodeText? t := by
    rw [decodeBody?_eq, decodeText?_eq, if_neg (by simpa using h)]
  refine ⟨fun s => by rw [hsame], by rw [hsame], ?_⟩
  intro bytes hbytes hutf8
  rw [decode?_urlSafe_of_standard hbytes]
  exact hutf8

/-- Three tildes in URL-safe digits, behind a blank beyond ASCII and with a line break inside. -/
def wrappedTildes : Text := "\u00a0fn\r\n5-"

/-- The byte 255 in standard digits, unpadded. -/
def loneByte : Text := "/w"

/-- Both readings give the tildes, and neither makes a text of the byte. -/
theorem readings_of_wrappedTildes_and_loneByte :
    (compact wrappedTildes ≠ [] ∧ decodeBody? wrappedTildes = some "~~~".toList ∧
      decodeText? wrappedTildes = some "~~~".toList) ∧
    compact loneByte ≠ [] ∧ decode? .standard (completed (compact loneByte)) = some [255] ∧
      decodeText? loneByte = none ∧ decodeBody? loneByte = none ∧
      (decode? .urlSafe (completed (compact loneByte))).bind Utf8.decode? = none := by
  have htildes : compact wrappedTildes ≠ [] := by decide
  have hread : decodeText? wrappedTildes = some "~~~".toList := by decide
  have hbyte : compact loneByte ≠ [] := by decide
  have hstandard : decode? .standard (completed (compact loneByte)) = some [255] := by decide
  have hnone : decodeText? loneByte = none := by decide
  obtain ⟨hsome, -, -⟩ := decodeBody?_eq_decodeText? wrappedTildes htildes
  obtain ⟨-, hrefused, hlost⟩ := decodeBody?_eq_decodeText? loneByte hbyte
  exact ⟨⟨htildes, (hsome _).mpr hread, hread⟩, hbyte, hstandard, hnone, hrefused.mpr hnone,
    hlost [255] hstandard (by decide)⟩

end LinkHarvest.Base64

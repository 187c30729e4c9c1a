import LinkHarvest.Proofs.Text.Base64
import LinkHarvest.Proofs.Text.NonBlank
import LinkHarvest.Proofs.Text.Utf8
import LinkHarvest.Retrieval.Body

/-!
# Bodies in plain text and in base64

A source may serve its links as they are, or in any base64 form of the same bytes; the links that
are read are the same (`readBody_forms`). What tells the two apart is a character that base64 does
not know: one inside a link is enough, since trimming and unwrapping a plain body leave it there
(`mem_compact`).
-/

namespace LinkHarvest

namespace Base64

theorem mem_compact {t line : Text} {c : Char} (hline : line ∈ Text.nonBlankLines t)
    (hc : c ∈ line) (hreturn : c ≠ '\r') : c ∈ compact t := by
  obtain ⟨hpart, htight, hfeed⟩ := Text.mem_nonBlankLines hline
  have hmem : c ∈ Text.trim t := (Text.infix_trim htight hpart).subset hc
  have hne : c ≠ '\n' := fun h => hfeed (h ▸ hc)
  exact List.mem_filter.mpr ⟨hmem, by simp [hne, hreturn]⟩

end Base64

namespace Retrieval

theorem decodeBase64?_ascii {t : Text} (h : ∀ c ∈ t, c.toNat < 128) :
    decodeBase64? (Utf8.encode t) = Base64.decodeBody? t := by
  rw [decodeBase64?, if_pos ((Utf8.all_encode_lt t).mpr h), Utf8.chars_encode_ascii h]

theorem decodeBase64?_eq_none {t line : Text} {c : Char} (hline : line ∈ Text.nonBlankLines t)
    (hc : c ∈ line) (hreturn : c ≠ '\r') (hsign : Base64.isSign c = false) :
    decodeBase64? (Utf8.encode t) = none := by
  by_cases hascii : ∀ c ∈ t, c.toNat < 128
  · rw [decodeBase64?_ascii hascii]
    exact Base64.decodeBody?_eq_none (Base64.mem_compact hline hc hreturn) hsign
  · exact if_neg (mt (Utf8.all_encode_lt t).mp hascii)

theorem decodeBase64?_form {t : Text} (form : Base64.Form (Utf8.encode t)) (h : t ≠ []) :
    decodeBase64? (Utf8.encode form.text) = some t := by
  have hbytes : Utf8.encode t ≠ [] := by
    intro hnil
    have hread := Utf8.decode?_encode t
    rw [hnil] at hread
    exact h (Option.some.inj hread).symm
  rw [decodeBase64?_ascii form.isAscii_text, Base64.decodeBody?_text form hbytes,
    Utf8.decode?_encode]

theorem links_readBody (bytes : Bytes) : ∃ t, (readBody bytes).links = Text.nonBlankLines t := by
  unfold readBody
  cases decodeBase64? bytes with
  | some t => exact ⟨t, rfl⟩
  | none => exact ⟨_, rfl⟩

theorem onLine_links {bytes : Bytes} {link : Text} (h : link ∈ (readBody bytes).links) :
    Text.OnLine link := by
  obtain ⟨t, hlinks⟩ := links_readBody bytes
  exact Text.onLine_of_mem (hlinks ▸ h)

/-- **The links of a body do not depend on how the source encodes it**, once some link holds a
character that base64 does not know. -/
theorem readBody_forms (t : Text)
    (h : ∃ link ∈ Text.nonBlankLines t, ∃ c ∈ link, c ≠ '\r' ∧ Base64.isSign c = false) :
    readBody (Utf8.encode t) = ⟨Text.nonBlankLines t, false⟩ ∧
      ∀ form : Base64.Form (Utf8.encode t),
        readBody (Utf8.encode form.text) = ⟨Text.nonBlankLines t, true⟩ := by
  obtain ⟨link, hlink, c, hc, hreturn, hsign⟩ := h
  constructor
  · rw [readBody, decodeBase64?_eq_none hlink hc hreturn hsign]
    dsimp only
    rw [Utf8.decodeReplacing_encode]
  · intro form
    have hne : t ≠ [] := by
      rintro rfl
      cases hlink
    rw [readBody, decodeBase64?_form form hne]

/-- Two links between blank lines, one of them with a remark beyond ASCII. -/
def twoLinks : Text := "trojan://pw@h:443#¿?\r\n\n  b >>>\r"

/-- Their URL-safe form, wrapped twice, unpadded and indented. -/
def wrappedLinks : Base64.Form (Utf8.encode twoLinks) :=
  .spelled .urlSafe [' ', '\x0c'] "dHJvamFuOi8vcHdAaDo0NDMj\r\nwr8_DQoKICBi\nID4-Pg0" ['\t'] 1
    (Text.forall_mem_of_all (by decide)) (by decide)

/-- The blank, the sharp and the colon of its links give the plain body away. -/
theorem readBody_twoLinks :
    (∃ link ∈ Text.nonBlankLines twoLinks, ∃ c ∈ link, c ≠ '\r' ∧ Base64.isSign c = false) ∧
      readBody (Utf8.encode twoLinks) =
        ⟨["trojan://pw@h:443#¿?".toList, "b >>>".toList], false⟩ ∧
      readBody (Utf8.encode wrappedLinks.text) =
        ⟨["trojan://pw@h:443#¿?".toList, "b >>>".toList], true⟩ := by
  have hlines : Text.nonBlankLines twoLinks =
      ["trojan://pw@h:443#¿?".toList, "b >>>".toList] := by decide
  have hsign : ∃ link ∈ Text.nonBlankLines twoLinks,
      ∃ c ∈ link, c ≠ '\r' ∧ Base64.isSign c = false := by
    rw [hlines]
    exact ⟨_, List.mem_cons_self, ':', by decide, by decide, by decide⟩
  obtain ⟨hplain, hforms⟩ := readBody_forms twoLinks hsign
  rw [hlines] at hplain hforms
  exact ⟨hsign, hplain, hforms wrappedLinks⟩

end Retrieval

end LinkHarvest

import UrlRouting.Proofs.Text.Utf8
import UrlRouting.Text.Percent

/-!
# Percent-decoding undoes percent-encoding

What is written for a place is read back unchanged (`percentDecode_percentEncode`), and of the
characters that the place reserves only `%` stands in it (`notMem_percentEncode`). It is written
character by character in printable ASCII without spaces, so that neither the delimiters of its
place nor the reader of the bytes can mistake it (`percentEncode_lossless`).
-/

namespace UrlRouting.Text

/-! ### Bytes -/

theorem unescapeBytes_cons {b : UInt8} (hb : b ≠ 0x25) (rest : List UInt8) :
    unescapeBytes (b :: rest) = b :: unescapeBytes rest := by
  match rest with
  | [] => rfl
  | [_] => rfl
  | _ :: _ :: _ => rw [unescapeBytes, if_neg hb]

/-- A character of ASCII is one byte. -/
theorem utf8EncodeChar_ascii {c : Char} (h : c.toNat < 0x80) :
    String.utf8EncodeChar c = [UInt8.ofNat c.toNat] := by
  have : c.toNat ≤ 0x7f := Nat.le_of_lt_succ h
  simp [String.utf8EncodeChar, this]

theorem hexDigit_lt : ∀ n < 16, (hexDigit n).toNat < 0x80 := by decide

theorem hexByteValue?_hexDigit :
    ∀ n < 16, hexByteValue? (UInt8.ofNat (hexDigit n).toNat) = some n := by decide +kernel

/-- The escape of a byte is read as the byte. -/
theorem unescapeBytes_escapeByte (b : UInt8) (rest : List UInt8) :
    unescapeBytes (encodeUtf8 (escapeByte b) ++ rest) = b :: unescapeBytes rest := by
  have hlt := b.toNat_lt
  have hhigh : b.toNat / 16 < 16 := by omega
  have hlow : b.toNat % 16 < 16 := Nat.mod_lt _ (by decide)
  have hbytes : encodeUtf8 (escapeByte b) =
      [0x25, UInt8.ofNat (hexDigit (b.toNat / 16)).toNat,
        UInt8.ofNat (hexDigit (b.toNat % 16)).toNat] := by
    simp only [encodeUtf8, escapeByte, List.flatMap_cons, List.flatMap_nil,
      utf8EncodeChar_ascii (hexDigit_lt _ hhigh), utf8EncodeChar_ascii (hexDigit_lt _ hlow)]
    rfl
  have hvalue : b.toNat / 16 * 16 + b.toNat % 16 = b.toNat := by omega
  rw [hbytes]
  simp only [List.cons_append, List.nil_append, unescapeBytes, if_true,
    hexByteValue?_hexDigit _ hhigh, hexByteValue?_hexDigit _ hlow, hvalue, UInt8.ofNat_toNat]

/-- Unescaping reads back escaped bytes, whatever follows them. -/
theorem unescapeBytes_escapes (bytes rest : List UInt8) :
    unescapeBytes (encodeUtf8 (bytes.flatMap escapeByte) ++ rest) =
      bytes ++ unescapeBytes rest := by
  induction bytes with
  | nil => rfl
  | cons b bytes ih =>
    rw [List.flatMap_cons, encodeUtf8_append, List.append_assoc, unescapeBytes_escapeByte, ih,
      List.cons_append]

/-! ### Characters -/

theorem percent_mem_reserved (place : UrlPlace) : '%' ∈ place.reserved := by
  cases place <;> decide

theorem allows_iff {place : UrlPlace} {c : Char} :
    place.allows c ↔ (0x20 ≤ c.toNat ∧ c.toNat < 0x7f) ∧ c ∉ place.reserved := by
  simp [UrlPlace.allows]

/-- What is written for a character is read as its bytes. -/
theorem unescapeBytes_percentEncodeChar (place : UrlPlace) (c : Char) (rest : List UInt8) :
    unescapeBytes (encodeUtf8 (percentEncodeChar place c) ++ rest) =
      String.utf8EncodeChar c ++ unescapeBytes rest := by
  unfold percentEncodeChar
  split
  next h =>
    obtain ⟨hrange, hreserved⟩ := allows_iff.1 h
    have hascii := utf8EncodeChar_ascii (show c.toNat < 0x80 by omega)
    have hne : UInt8.ofNat c.toNat ≠ 0x25 := by
      intro heq
      have hnat : c.toNat = '%'.toNat := by
        have := congrArg UInt8.toNat heq
        rwa [toNat_ofNat (by omega)] at this
      exact hreserved (Char.toNat_inj.1 hnat ▸ percent_mem_reserved place)
    rw [encodeUtf8, List.flatMap_singleton, hascii, List.singleton_append,
      unescapeBytes_cons hne, List.singleton_append]
  next => exact unescapeBytes_escapes _ rest

theorem hexDigit_notMem : ∀ n < 16, hexDigit n ∉ UrlPlace.query.reserved := by decide +kernel

theorem mem_query_reserved {place : UrlPlace} {c : Char} (h : c ∈ place.reserved) :
    c ∈ UrlPlace.query.reserved := by
  cases place with
  | segment => exact List.mem_append_left _ h
  | query => exact h

/-- Only the percent sign of an escape is a reserved character. -/
theorem notMem_escapeByte {place : UrlPlace} {c : Char} (hc : c ∈ place.reserved)
    (hne : c ≠ '%') (b : UInt8) : c ∉ escapeByte b := by
  have hlt := b.toNat_lt
  have hquery := mem_query_reserved hc
  simp only [escapeByte, List.mem_cons, List.not_mem_nil, or_false, not_or]
  refine ⟨hne, fun h => ?_, fun h => ?_⟩
  · exact hexDigit_notMem _ (by omega) (h ▸ hquery)
  · exact hexDigit_notMem _ (Nat.mod_lt _ (by decide)) (h ▸ hquery)

/-! ### Texts -/

/-- What is written for a place is read back unchanged. -/
theorem percentDecode_percentEncode (place : UrlPlace) (s : String) :
    percentDecode (percentEncode place s) = s := by
  have hbytes (cs : List Char) :
      unescapeBytes (encodeUtf8 (cs.flatMap (percentEncodeChar place))) = encodeUtf8 cs := by
    induction cs with
    | nil => rfl
    | cons c cs ih =>
      rw [List.flatMap_cons, encodeUtf8_append, unescapeBytes_percentEncodeChar, ih]
      rfl
  rw [percentDecode, toList_percentEncode, hbytes, decodeUtf8_encodeUtf8, String.ofList_toList]

/-- No reserved character but `%` stands in what is written for a place. -/
theorem notMem_percentEncode {place : UrlPlace} {c : Char} (hc : c ∈ place.reserved)
    (hne : c ≠ '%') (s : String) : c ∉ (percentEncode place s).toList := by
  rw [toList_percentEncode, List.mem_flatMap]
  rintro ⟨d, -, hd⟩
  unfold percentEncodeChar at hd
  split at hd
  next h =>
    rw [List.mem_singleton.1 hd] at hc
    exact (allows_iff.1 h).2 hc
  next =>
    obtain ⟨b, -, hb⟩ := List.mem_flatMap.1 hd
    exact notMem_escapeByte hc hne b hb

/-- Undoing escapes leaves something of bytes where there are some. -/
theorem unescapeBytes_ne_nil {bytes : List UInt8} (h : bytes ≠ []) : unescapeBytes bytes ≠ [] := by
  match bytes with
  | [] => exact absurd rfl h
  | [_] | [_, _] => exact List.cons_ne_nil _ _
  | b :: c :: d :: rest =>
    rw [unescapeBytes]
    split
    · split <;> exact List.cons_ne_nil _ _
    · exact List.cons_ne_nil _ _

/-- Only the empty text is read as the empty text. -/
theorem percentDecode_ne_empty {s : String} (h : s ≠ "") : percentDecode s ≠ "" := by
  have hbytes : encodeUtf8 s.toList ≠ [] := by
    intro hnil
    apply h
    rw [← String.ofList_toList (s := s), ← decodeUtf8_encodeUtf8 s.toList, hnil, decodeUtf8]
  intro hempty
  have hchars : decodeUtf8 (unescapeBytes (encodeUtf8 s.toList)) = [] := by
    simpa [percentDecode] using hempty
  cases hunescaped : unescapeBytes (encodeUtf8 s.toList) with
  | nil => exact unescapeBytes_ne_nil hbytes hunescaped
  | cons lead rest =>
    rw [hunescaped, decodeUtf8] at hchars
    cases hchars

/-- Only the empty text is written without any character. -/
theorem percentEncode_eq_empty {place : UrlPlace} {s : String} :
    percentEncode place s = "" ↔ s = "" := by
  constructor
  · intro h
    rw [← percentDecode_percentEncode place s, h]
    exact percentDecode_percentEncode place ""
  · rintro rfl
    rfl

/-! ### Printable characters -/

theorem hexDigit_printable : ∀ n < 16, 0x20 < (hexDigit n).toNat ∧ (hexDigit n).toNat < 0x7f := by
  decide

theorem printable_of_mem_escapeByte {c : Char} {b : UInt8} (h : c ∈ escapeByte b) :
    0x20 < c.toNat ∧ c.toNat < 0x7f := by
  have hlt := b.toNat_lt
  simp only [escapeByte, List.mem_cons, List.not_mem_nil, or_false] at h
  rcases h with rfl | rfl | rfl
  · decide
  · exact hexDigit_printable _ (by omega)
  · exact hexDigit_printable _ (Nat.mod_lt _ (by decide))

theorem space_mem_reserved (place : UrlPlace) : ' ' ∈ place.reserved := by
  cases place <;> decide

/-- What is written for a place are printable characters of ASCII, and none is a space. -/
theorem printable_of_mem_percentEncode {place : UrlPlace} {s : String} {c : Char}
    (h : c ∈ (percentEncode place s).toList) : 0x20 < c.toNat ∧ c.toNat < 0x7f := by
  rw [toList_percentEncode, List.mem_flatMap] at h
  obtain ⟨d, -, hc⟩ := h
  unfold percentEncodeChar at hc
  split at hc
  next hallowed =>
    obtain rfl := List.mem_singleton.1 hc
    obtain ⟨⟨hlow, hhigh⟩, hreserved⟩ := allows_iff.1 hallowed
    refine ⟨Nat.lt_of_le_of_ne hlow fun heq => hreserved ?_, hhigh⟩
    have hspace : ' ' = c := Char.toNat_inj.1 heq
    exact hspace ▸ space_mem_reserved place
  next =>
    obtain ⟨b, -, hb⟩ := List.mem_flatMap.1 hc
    exact printable_of_mem_escapeByte hb

/-- **Percent-encoding is lossless and safe for its place**: what is written for a place is read back
unchanged; it is printable ASCII without spaces and control characters and without the delimiters
of the path, and at a place in the query also without those of the query; only the empty text is
written as the empty text; and a text that follows another is written behind it. -/
theorem percentEncode_lossless (place : UrlPlace) (s t : String) :
    percentDecode (percentEncode place s) = s ∧
    (∀ c ∈ (percentEncode place s).toList, 0x20 < c.toNat ∧ c.toNat < 0x7f) ∧
    (∀ c ∈ ['/', '?', '#', ' '], c ∉ (percentEncode place s).toList) ∧
    (place = .query → ∀ c ∈ ['&', '=', '+'], c ∉ (percentEncode place s).toList) ∧
    (percentEncode place s = "" ↔ s = "") ∧
    percentEncode place (s ++ t) = percentEncode place s ++ percentEncode place t := by
  refine ⟨percentDecode_percentEncode place s, fun c => printable_of_mem_percentEncode, ?_, ?_,
    percentEncode_eq_empty, percentEncode_append place s t⟩
  · have hdelimiters : ∀ c ∈ ['/', '?', '#', ' '], c ∈ place.reserved ∧ c ≠ '%' := by
      cases place <;> simp [UrlPlace.reserved, segmentDelimiters]
    intro c hc
    obtain ⟨hreserved, hne⟩ := hdelimiters c hc
    exact notMem_percentEncode hreserved hne s
  · rintro rfl c hc
    have hdelimiters : ∀ c ∈ ['&', '=', '+'], c ∈ UrlPlace.query.reserved ∧ c ≠ '%' := by
      simp [UrlPlace.reserved, segmentDelimiters]
    obtain ⟨hreserved, hne⟩ := hdelimiters c hc
    exact notMem_percentEncode hreserved hne s

/-- What looks like an escape is escaped itself, and so is every byte of a character. -/
example : percentEncode .query "%2F é+b" = "%252F%20%C3%A9%2Bb" := by decide +kernel

end UrlRouting.Text

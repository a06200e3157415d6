import CatalogCrawl.Url.Percent
import Mathlib.Logic.Function.Basic

/-! # Percent-encoding can be undone

A text is got back from its UTF-8 bytes (`Utf8.decode_encode`), and the bytes from an encoding in
which the percent sign is encoded too (`percentDecode_percentEncode`). Such an encoding is therefore
one to one, and a character that is encoded does not stand in it (`not_mem_percentEncode`). -/

namespace CatalogCrawl

namespace Text.Utf8

/-! ## UTF-8 -/

theorem lt_of_mem_bytes {c : Char} {b : Nat} (h : b ∈ bytes c) : b < 256 := by
  obtain ⟨byte, -, rfl⟩ := List.mem_map.mp h
  exact byte.toNat_lt

/-- The numbers of a text are its bytes. -/
theorem pack_encode (cs : List Char) : pack (encode cs) = cs.utf8Encode := by
  have hbytes : encode cs = (cs.flatMap String.utf8EncodeChar).map UInt8.toNat :=
    List.map_flatMap.symm
  rw [pack, hbytes, List.map_map, List.utf8Encode]
  congr 1
  exact List.map_id'' (fun byte => UInt8.ofNat_toNat) _

/-- **A text is got back from its bytes.** -/
theorem decode_encode (cs : List Char) : decode (encode cs) = some cs := by
  rw [decode, pack_encode, List.utf8Decode?_utf8Encode]
  rfl

theorem encode_injective : Function.Injective encode := by
  intro cs cs' h
  have hdecode := decode_encode cs
  rw [h, decode_encode] at hdecode
  exact (Option.some.inj hdecode).symm

end Text.Utf8

namespace Url

/-! ## Escapes -/

theorem hexValue_upperHex {n : Nat} (h : n < 16) : hexValue (upperHex n) = some n := by
  have hall : ∀ n : Fin 16, hexValue (upperHex n) = some n.val := by decide
  exact hall ⟨n, h⟩

/-- An escape is read back as its byte. -/
theorem percentDecode_percentByte {b : Nat} (h : b < 256) (cs : List Char) :
    percentDecode (percentByte b ++ cs) = b :: percentDecode cs := by
  have hhigh : b / 16 < 16 := by omega
  have hlow : b % 16 < 16 := by omega
  simp only [percentByte, List.cons_append, List.nil_append, percentDecode, hexValue_upperHex hhigh,
    hexValue_upperHex hlow]
  congr 1
  omega

theorem percentDecode_flatMap {bs : List Nat} (h : ∀ b ∈ bs, b < 256) (cs : List Char) :
    percentDecode (bs.flatMap percentByte ++ cs) = bs ++ percentDecode cs := by
  induction bs with
  | nil => rfl
  | cons b bs ih =>
    obtain ⟨hb, hbs⟩ := List.forall_mem_cons.mp h
    rw [List.flatMap_cons, List.append_assoc, percentDecode_percentByte hb, ih hbs,
      List.cons_append]

/-- A character other than the percent sign stands for itself. -/
theorem percentDecode_cons {c : Char} (h : c ≠ '%') (cs : List Char) :
    percentDecode (c :: cs) = Text.Utf8.bytes c ++ percentDecode cs := by
  rw [percentDecode]
  intro a b cs' hc
  exact absurd hc h

/-- **An encoding in which the percent sign is encoded is read back as the bytes of the text.** -/
theorem percentDecode_percentEncode {p : Char → Bool} (hp : p '%' = true) (cs : List Char) :
    percentDecode (percentEncode p cs) = Text.Utf8.encode cs := by
  induction cs with
  | nil => rfl
  | cons c cs ih =>
    rw [percentEncode, List.flatMap_cons, ← percentEncode, Text.Utf8.encode, List.flatMap_cons,
      ← Text.Utf8.encode, ← ih]
    split
    · exact percentDecode_flatMap (fun _ => Text.Utf8.lt_of_mem_bytes) _
    · next hc =>
      refine percentDecode_cons ?_ _
      rintro rfl
      exact hc hp

theorem percentEncode_injective {p : Char → Bool} (hp : p '%' = true) :
    Function.Injective (percentEncode p) := by
  intro cs cs' h
  have hbytes := congrArg percentDecode h
  rw [percentDecode_percentEncode hp, percentDecode_percentEncode hp] at hbytes
  exact Text.Utf8.encode_injective hbytes

/-- A character that is encoded does not stand in the encoding, unless it is one of those that
escapes are made of. -/
theorem not_mem_percentEncode {p : Char → Bool} {x : Char} (hp : p x = true) (hpercent : x ≠ '%')
    (hdigit : ∀ n < 16, x ≠ upperHex n) (cs : List Char) : x ∉ percentEncode p cs := by
  intro hmem
  obtain ⟨c, -, hc⟩ := List.mem_flatMap.mp hmem
  split at hc
  · obtain ⟨b, hb, hx⟩ := List.mem_flatMap.mp hc
    have hlt := Text.Utf8.lt_of_mem_bytes hb
    simp only [percentByte, List.mem_cons, List.not_mem_nil, or_false] at hx
    rcases hx with hx | hx | hx
    · exact hpercent hx
    · exact hdigit (b / 16) (by omega) hx
    · exact hdigit (b % 16) (by omega) hx
  · next hplain =>
    rw [List.mem_singleton] at hc
    exact hplain (hc ▸ hp)

end Url

end CatalogCrawl

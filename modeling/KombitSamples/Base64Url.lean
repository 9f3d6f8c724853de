import Mathlib.Data.List.Nodup

/-!
# Base64Url

The unpadded, URL-safe base-64 encoding of bytes.

Three bytes are four sextets, and one or two bytes at the end are two or
three; a sextet is written as a letter of the alphabet.

* `decode_encode` — decoding undoes encoding;
* `encode_injective` — so different bytes have different encodings.
-/

namespace Base64Url

/-! ## Sextets -/

/-- The six-bit groups of a list of bytes, the last one filled up with zeros. -/
def sextets : List UInt8 → List Nat
  | [] => []
  | [a] => [a.toNat / 4, a.toNat % 4 * 16]
  | [a, b] => [a.toNat / 4, a.toNat % 4 * 16 + b.toNat / 16, b.toNat % 16 * 4]
  | a :: b :: c :: rest =>
      a.toNat / 4 :: (a.toNat % 4 * 16 + b.toNat / 16) ::
        (b.toNat % 16 * 4 + c.toNat / 64) :: c.toNat % 64 :: sextets rest

/-- The bytes of a list of six-bit groups. -/
def octets : List Nat → List UInt8
  | w :: x :: y :: z :: rest =>
      UInt8.ofNat (w * 4 + x / 16) :: UInt8.ofNat (x % 16 * 16 + y / 4) ::
        UInt8.ofNat (y % 4 * 64 + z) :: octets rest
  | [w, x, y] => [UInt8.ofNat (w * 4 + x / 16), UInt8.ofNat (x % 16 * 16 + y / 4)]
  | [w, x] => [UInt8.ofNat (w * 4 + x / 16)]
  | _ => []

theorem toNat_lt (a : UInt8) : a.toNat < 256 := a.toNat_lt

/-- A sextet has six bits. -/
theorem lt_of_mem_sextets (l : List UInt8) : ∀ n ∈ sextets l, n < 64 := by
  fun_induction sextets l with
  | case1 => simp
  | case2 a =>
      have ha := toNat_lt a
      simp only [List.mem_cons, List.not_mem_nil, or_false, forall_eq_or_imp, forall_eq]
      omega
  | case3 a b =>
      have ha := toNat_lt a
      have hb := toNat_lt b
      simp only [List.mem_cons, List.not_mem_nil, or_false, forall_eq_or_imp, forall_eq]
      omega
  | case4 a b c rest ih =>
      have ha := toNat_lt a
      have hb := toNat_lt b
      have hc := toNat_lt c
      simp only [List.mem_cons, forall_eq_or_imp]
      exact ⟨by omega, by omega, by omega, by omega, ih⟩

theorem ofNat_eq {a : UInt8} {n : Nat} (h : n = a.toNat) : UInt8.ofNat n = a := by
  rw [h, UInt8.ofNat_toNat]

theorem octets_sextets (l : List UInt8) : octets (sextets l) = l := by
  fun_induction sextets l with
  | case1 => rfl
  | case2 a =>
      have ha := toNat_lt a
      simp only [octets]
      rw [ofNat_eq (a := a) (by omega)]
  | case3 a b =>
      have ha := toNat_lt a
      have hb := toNat_lt b
      simp only [octets]
      rw [ofNat_eq (a := a) (by omega), ofNat_eq (a := b) (by omega)]
  | case4 a b c rest ih =>
      have ha := toNat_lt a
      have hb := toNat_lt b
      have hc := toNat_lt c
      simp only [octets]
      rw [ofNat_eq (a := a) (by omega), ofNat_eq (a := b) (by omega), ofNat_eq (a := c) (by omega),
        ih]

/-! ## Letters -/

def alphabet : List Char :=
  "ABCDEFGHIJKLMNOPQRSTUVWXYZabcdefghijklmnopqrstuvwxyz0123456789-_".toList

/-- The letter of a sextet. -/
def letter (n : Nat) : Char := alphabet.getD n '='

/-- The sextet of a letter. -/
def sextet (c : Char) : Nat := alphabet.idxOf c

theorem length_alphabet : alphabet.length = 64 := by decide

theorem nodup_alphabet : alphabet.Nodup := by decide

theorem sextet_letter {n : Nat} (h : n < 64) : sextet (letter n) = n := by
  have hlt : n < alphabet.length := by rw [length_alphabet]; exact h
  rw [letter, List.getD_eq_getElem?_getD, List.getElem?_eq_getElem hlt, Option.getD_some, sextet,
    nodup_alphabet.idxOf_getElem]

/-! ## The encoding -/

def encode (bytes : List UInt8) : String := String.ofList ((sextets bytes).map letter)

def decode (s : String) : List UInt8 := octets (s.toList.map sextet)

/-- Decoding undoes encoding. -/
theorem decode_encode (bytes : List UInt8) : decode (encode bytes) = bytes := by
  have hsextets : ((sextets bytes).map letter).map sextet = sextets bytes := by
    rw [List.map_map]
    calc (sextets bytes).map (sextet ∘ letter)
        = (sextets bytes).map id :=
          List.map_congr_left fun n hn => sextet_letter (lt_of_mem_sextets bytes n hn)
      _ = sextets bytes := List.map_id _
  rw [decode, encode, String.toList_ofList, hsextets, octets_sextets]

/-- **Different bytes have different encodings.** -/
theorem encode_injective : Function.Injective encode := by
  intro x y h
  rw [← decode_encode x, h, decode_encode]

example : encode [77, 97, 110, 251, 255] = "TWFu-_8" := by decide

end Base64Url

import Mathlib.Data.List.Basic

/-!
# Percent-encoding

Percent-encoding writes the bytes of every character outside a safe set as
{lit}`%` and two hexadecimal digits.  Encoders differ in their safe sets, but all
of them encode the percent sign itself, so that an encoded text grows when it is
encoded again.

Main results:

- Theorem {lit}`length_encode_encode`: encoding twice gives no shorter a text than
  encoding once.
- Theorem {lit}`encode_encode_eq_iff`: encoding in advance goes unnoticed exactly
  for texts that it leaves alone.

Current gaps:

- Decoding is not treated.
-/

namespace BoltClient.Library.PercentEncoding

/-- The unreserved characters of URLs. -/
def unreserved (c : Char) : Bool := c.isAlphanum || c ∈ ['-', '.', '_', '~']

/-- A hexadecimal digit. -/
def hexDigit (n : Nat) : Char := (Nat.digitChar n).toUpper

/-- A byte, percent-encoded. -/
def encodeByte (b : UInt8) : List Char := ['%', hexDigit (b.toNat / 16), hexDigit (b.toNat % 16)]

/-- A character, percent-encoded unless it is safe. -/
def encodeChar (safe : Char → Bool) (c : Char) : List Char :=
  if safe c then [c] else (String.utf8EncodeChar c).flatMap encodeByte

/-- A text, percent-encoded but for its safe characters. -/
def encode (safe : Char → Bool) (text : List Char) : List Char := text.flatMap (encodeChar safe)

variable {safe inner outer : Char → Bool} {c : Char} {text : List Char}

@[simp] theorem encode_nil : encode safe [] = [] := rfl

@[simp] theorem encode_cons (c : Char) (text : List Char) :
    encode safe (c :: text) = encodeChar safe c ++ encode safe text := rfl

theorem encode_append (text text' : List Char) :
    encode safe (text ++ text') = encode safe text ++ encode safe text' :=
  List.flatMap_append

/-- A safe character is left alone. -/
theorem encodeChar_of_safe (hsafe : safe c = true) : encodeChar safe c = [c] := by
  simp [encodeChar, hsafe]

/-- Every other character takes three places for each of its bytes. -/
theorem length_encodeChar_of_not_safe (hsafe : safe c = false) :
    (encodeChar safe c).length = 3 * c.utf8Size := by
  have hbyte : ∀ b, (encodeByte b).length = 3 := fun _ => rfl
  simp [encodeChar, hsafe, List.length_flatMap, hbyte, Nat.mul_comm]

theorem length_encodeChar_pos (safe : Char → Bool) (c : Char) :
    1 ≤ (encodeChar safe c).length := by
  cases hsafe : safe c with
  | true => simp [encodeChar_of_safe hsafe]
  | false =>
      have hsize := c.utf8Size_pos
      rw [length_encodeChar_of_not_safe hsafe]
      omega

theorem length_encodeChar_le (safe : Char → Bool) (c : Char) :
    (encodeChar safe c).length ≤ 3 * c.utf8Size := by
  cases hsafe : safe c with
  | true =>
      have hsize := c.utf8Size_pos
      rw [encodeChar_of_safe hsafe, List.length_singleton]
      omega
  | false => exact Nat.le_of_eq (length_encodeChar_of_not_safe hsafe)

/-- A character that was left alone is encoded as if nothing had happened. -/
theorem encode_encodeChar_of_safe (hinner : inner c = true) :
    encode outer (encodeChar inner c) = encodeChar outer c := by
  simp [encodeChar_of_safe hinner]

section Twice

variable (hpercent : outer '%' = false)
include hpercent

/-- An encoded byte takes at least five places when it is encoded again. -/
theorem length_encode_encodeByte (b : UInt8) : 5 ≤ (encode outer (encodeByte b)).length := by
  have hmark : (encodeChar outer '%').length = 3 := length_encodeChar_of_not_safe hpercent
  have hhigh := length_encodeChar_pos outer (hexDigit (b.toNat / 16))
  have hlow := length_encodeChar_pos outer (hexDigit (b.toNat % 16))
  simp only [encodeByte, encode_cons, encode_nil, List.length_append, List.length_nil]
  omega

theorem length_encode_encodeBytes (bytes : List UInt8) :
    5 * bytes.length ≤ (encode outer (bytes.flatMap encodeByte)).length := by
  induction bytes with
  | nil => simp
  | cons b bytes ih =>
      have hbyte := length_encode_encodeByte hpercent b
      rw [List.flatMap_cons, encode_append, List.length_append, List.length_cons]
      omega

/-- A character that was encoded takes more places when it is encoded again. -/
theorem length_encode_encodeChar_lt (hinner : inner c = false) :
    (encodeChar outer c).length < (encode outer (encodeChar inner c)).length := by
  have honce := length_encodeChar_le outer c
  have htwice := length_encode_encodeBytes hpercent (String.utf8EncodeChar c)
  have hencoded : encodeChar inner c = (String.utf8EncodeChar c).flatMap encodeByte := by
    simp [encodeChar, hinner]
  have hsize := c.utf8Size_pos
  rw [String.length_utf8EncodeChar] at htwice
  rw [hencoded]
  omega

theorem length_encode_encodeChar (inner : Char → Bool) (c : Char) :
    (encodeChar outer c).length ≤ (encode outer (encodeChar inner c)).length := by
  cases hinner : inner c with
  | true => exact Nat.le_of_eq (congrArg List.length (encode_encodeChar_of_safe hinner).symm)
  | false => exact Nat.le_of_lt (length_encode_encodeChar_lt hpercent hinner)

/-- Encoding a text in advance does not make the encoded text shorter. -/
theorem length_encode_encode (inner : Char → Bool) (text : List Char) :
    (encode outer text).length ≤ (encode outer (encode inner text)).length := by
  induction text with
  | nil => exact Nat.le_refl _
  | cons c text ih =>
      have hchar := length_encode_encodeChar hpercent inner c
      simp only [encode_cons, encode_append, List.length_append]
      omega

/-- Encoding a text in advance goes unnoticed exactly when it leaves every
character alone. -/
theorem encode_encode_eq_iff :
    encode outer (encode inner text) = encode outer text ↔ ∀ c ∈ text, inner c = true := by
  induction text with
  | nil => simp
  | cons c text ih =>
      simp only [encode_cons, encode_append, List.forall_mem_cons]
      cases hinner : inner c with
      | true =>
          rw [encode_encodeChar_of_safe hinner, List.append_cancel_left_eq, ih]
          simp
      | false =>
          -- The first character has grown, and the others have not shrunk.
          refine iff_of_false (fun heq => ?_) (by simp)
          have hchar := length_encode_encodeChar_lt hpercent hinner
          have hrest := length_encode_encode hpercent inner text
          have hlength := congrArg List.length heq
          simp only [List.length_append] at hlength
          omega

end Twice

end BoltClient.Library.PercentEncoding

import Mathlib.Tactic.IntervalCases

/-! Hexadecimal text, as encoding/hex writes and reads it: two lower case digits for each
byte, and digits of either case back. -/
namespace ScheduleSync

def hexDigit (n : Nat) : Char := if n < 10 then Char.ofNat (48 + n) else Char.ofNat (87 + n)

def fromHexChar (c : Char) : Option Nat :=
  if 48 ≤ c.toNat ∧ c.toNat ≤ 57 then some (c.toNat - 48)
  else if 97 ≤ c.toNat ∧ c.toNat ≤ 102 then some (c.toNat - 87)
  else if 65 ≤ c.toNat ∧ c.toNat ≤ 70 then some (c.toNat - 55)
  else none

def hexEncode (bytes : List UInt8) : List Char :=
  bytes.flatMap fun b => [hexDigit (b.toNat / 16), hexDigit (b.toNat % 16)]

/-- none for a character that is no digit, and for an odd number of digits. -/
def hexDecode : List Char → Option (List UInt8)
  | [] => some []
  | [_] => none
  | a :: b :: rest => do
    let high ← fromHexChar a
    let low ← fromHexChar b
    let bytes ← hexDecode rest
    return UInt8.ofNat (16 * high + low) :: bytes

def quoteByte (b : UInt8) : String :=
  let code := "U+00" ++ String.ofList [(hexDigit (b.toNat / 16)).toUpper, (hexDigit (b.toNat % 16)).toUpper]
  let quote := Char.ofNat 39
  -- strconv.IsPrint leaves out control characters, the no-break space and the soft hyphen
  if 32 ≤ b ∧ b < 127 ∨ 161 ≤ b ∧ b ≠ 173 then
    code ++ String.ofList [' ', quote, Char.ofNat b.toNat, quote]
  else code

/-- The error of DecodeString where there are no bytes: it names the first byte that is no digit. -/
def hexDecodeError (text : List Char) : String :=
  match text.find? fun c => (fromHexChar c).isNone with
  | some c => "encoding/hex: invalid byte: " ++ quoteByte ((String.utf8EncodeChar c).headD 0)
  | none => "encoding/hex: odd length hex string"

section Digits
variable {c : Char} {n : Nat}

theorem toLower_toNat : c.toLower.toNat = if 65 ≤ c.toNat ∧ c.toNat ≤ 90 then c.toNat + 32 else c.toNat := by
  have hval : c.toNat = c.val.toNat := rfl
  by_cases h : 65 ≤ c.toNat ∧ c.toNat ≤ 90
  · have hrange : c.val ≥ 'A'.val ∧ c.val ≤ 'Z'.val := h
    rw [if_pos h]
    delta Char.toLower
    rw [dif_pos hrange]
    change (c.val + 32).toNat = c.toNat + 32
    have hshift : (32 : UInt32).toNat = 32 := rfl
    rw [UInt32.toNat_add, hshift]
    omega
  · have hrange : ¬ (c.val ≥ 'A'.val ∧ c.val ≤ 'Z'.val) := h
    rw [if_neg h]
    delta Char.toLower
    rw [dif_neg hrange]

theorem hexDigit_toNat (h : n < 16) : (hexDigit n).toNat = if n < 10 then 48 + n else 87 + n := by
  interval_cases n <;> rfl

theorem char_eq_iff {c d : Char} : c = d ↔ c.toNat = d.toNat :=
  ⟨congrArg Char.toNat, fun h => by rw [← Char.ofNat_toNat c, h, Char.ofNat_toNat]⟩

theorem fromHexChar_eq_some : fromHexChar c = some n ↔ n < 16 ∧ c.toLower = hexDigit n := by
  constructor
  · intro h
    have hn : n < 16 := by
      unfold fromHexChar at h
      split_ifs at h <;> cases h <;> omega
    refine ⟨hn, ?_⟩
    rw [char_eq_iff, toLower_toNat, hexDigit_toNat hn]
    unfold fromHexChar at h
    split_ifs at h <;> cases h <;> split_ifs <;> omega
  · rintro ⟨hn, h⟩
    rw [char_eq_iff, toLower_toNat, hexDigit_toNat hn] at h
    unfold fromHexChar
    split_ifs at h ⊢ <;> first | omega | (rw [Option.some.injEq]; omega)

end Digits

theorem hexEncode_cons (b : UInt8) (bytes : List UInt8) :
    hexEncode (b :: bytes) = hexDigit (b.toNat / 16) :: hexDigit (b.toNat % 16) :: hexEncode bytes := rfl

theorem hexDecode_eq_some {cs : List Char} {bytes : List UInt8} :
    hexDecode cs = some bytes ↔ cs.map Char.toLower = hexEncode bytes := by
  induction cs using hexDecode.induct generalizing bytes with
  | case1 => cases bytes <;> simp [hexDecode, hexEncode]
  | case2 a => cases bytes <;> simp [hexDecode, hexEncode]
  | case3 a b rest ih =>
    simp only [hexDecode, Option.bind_eq_bind, Option.bind_eq_some_iff, Option.pure_def, Option.some.injEq,
      fromHexChar_eq_some, ih, List.map_cons]
    constructor
    · rintro ⟨high, ⟨hhigh, ha⟩, low, ⟨hlow, hb⟩, rest', hrest, rfl⟩
      have hbyte : (UInt8.ofNat (16 * high + low)).toNat = 16 * high + low := by
        rw [UInt8.toNat_ofNat']
        omega
      have hdiv : (16 * high + low) / 16 = high := by omega
      have hmod : (16 * high + low) % 16 = low := by omega
      rw [hexEncode_cons, hbyte, hdiv, hmod, ha, hb, hrest]
    · intro h
      cases bytes with
      | nil => cases h
      | cons x bytes =>
        rw [hexEncode_cons] at h
        obtain ⟨ha, h⟩ := List.cons.inj h
        obtain ⟨hb, hrest⟩ := List.cons.inj h
        have hx := x.toNat_lt
        refine ⟨x.toNat / 16, ⟨by omega, ha⟩, x.toNat % 16, ⟨by omega, hb⟩, bytes, hrest, ?_⟩
        rw [Nat.div_add_mod, UInt8.ofNat_toNat]

theorem toLower_hexEncode (bytes : List UInt8) : (hexEncode bytes).map Char.toLower = hexEncode bytes := by
  have hdigit : ∀ n, n < 16 → (hexDigit n).toLower = hexDigit n := by
    intro n hn
    interval_cases n <;> rfl
  induction bytes with
  | nil => rfl
  | cons b bytes ih =>
    have hb := b.toNat_lt
    rw [hexEncode_cons, List.map_cons, List.map_cons, hdigit _ (by omega), hdigit _ (by omega), ih]

theorem hexDecode_hexEncode (bytes : List UInt8) : hexDecode (hexEncode bytes) = some bytes :=
  hexDecode_eq_some.mpr (toLower_hexEncode bytes)

end ScheduleSync

import ClusterControl.Path
import Mathlib.Tactic

/-!
# Texts as bytes

A text that was written as bytes reads back, so a path that a text writes shows that text.

* `lead_encodeChar` — the bytes of one character, whatever follows them.
* `decodeLossy_encode`, `decode?_encode`, `Path.text_ofText` — the bytes of a text.
* `encodeChar_of_lead`, `decode?_eq_some_iff` — and no other bytes are read as that text.
* `slash_of_mem_encodeChar` — the byte that separates the parts of a path stands for itself only.
-/

namespace ClusterControl
namespace Utf8

/-! ## Single bytes -/

theorem toNat_toUInt8 {n : Nat} (h : n < 256) : n.toUInt8.toNat = n := by
  simp [Nat.toUInt8, Nat.mod_eq_of_lt h]

/-- A byte that continues a character, with its last six bits. -/
theorem continuation?_of_lt {x : Nat} (h : x < 64) : continuation? (0x80 + x).toUInt8 = some x := by
  have hx := toNat_toUInt8 (show 0x80 + x < 256 by omega)
  have inside : (0x80 : UInt8) ≤ (0x80 + x).toUInt8 ∧ (0x80 + x).toUInt8 ≤ 0xBF := by
    simp only [UInt8.le_iff_toNat_le, hx]
    exact ⟨Nat.le_add_right _ _, by show 0x80 + x ≤ 191; omega⟩
  rw [continuation?, if_pos inside, hx]
  congr 1
  omega

theorem width_eq {n : Nat} (h : n < 256) : width n.toUInt8 =
    if n < 0x80 then 1 else if n < 0xC2 then 0 else if n < 0xE0 then 2 else if n < 0xF0 then 3
    else if n < 0xF5 then 4 else 0 := by
  simp only [width, UInt8.lt_iff_toNat_lt, toNat_toUInt8 h]
  rfl

theorem secondRange_eq {n : Nat} (h : n < 256) : secondRange n.toUInt8 =
    if n = 0xE0 then (0xA0, 0xBF) else if n = 0xED then (0x80, 0x9F)
    else if n = 0xF0 then (0x90, 0xBF) else if n = 0xF4 then (0x80, 0x8F) else (0x80, 0xBF) := by
  simp only [secondRange, ← UInt8.toNat_inj, toNat_toUInt8 h]
  rfl

/-- The second byte of a character. -/
theorem second?_of_lt {n x : Nat} (hn : n < 256) (hx : x < 64) (rest : List UInt8)
    (hE0 : n = 0xE0 → 0x20 ≤ x) (hED : n = 0xED → x < 0x20) (hF0 : n = 0xF0 → 0x10 ≤ x)
    (hF4 : n = 0xF4 → x < 0x10) :
    second? n.toUInt8 ((0x80 + x).toUInt8 :: rest) = some x := by
  have byte := toNat_toUInt8 (show 0x80 + x < 256 by omega)
  have inside : (secondRange n.toUInt8).1 ≤ (0x80 + x).toUInt8 ∧
      (0x80 + x).toUInt8 ≤ (secondRange n.toUInt8).2 := by
    rw [secondRange_eq hn]
    simp only [UInt8.le_iff_toNat_le, byte]
    split_ifs <;> simp <;> omega
  rw [second?, if_pos inside, byte]
  congr 1
  omega

/-! ## Characters -/

/-- A character is no half of a surrogate pair. -/
theorem toNat_valid (c : Char) : c.toNat < 0xD800 ∨ 0xDFFF < c.toNat ∧ c.toNat < 0x110000 :=
  c.valid

/-- The bytes of one character read back, whatever follows them. -/
theorem lead_encodeChar (c : Char) (rest : List UInt8) :
    lead (encodeChar c ++ rest) = .scalar c ((encodeChar c).length - 1) := by
  have valid := toNat_valid c
  have named {n : Nat} (h : n = c.toNat) : Char.ofNat n = c := h ▸ Char.ofNat_toNat c
  unfold encodeChar
  generalize c.toNat = v at valid named
  dsimp only
  split
  · have hv : v < 256 := by omega
    simp only [List.singleton_append, lead, width_eq hv]
    rw [if_pos (by assumption)]
    simp [toNat_toUInt8 hv, named]
  split
  · have hv : 0xC0 + v / 64 < 256 := by omega
    have width : width (0xC0 + v / 64).toUInt8 = 2 := by
      rw [width_eq hv, if_neg (by omega), if_neg (by omega), if_pos (by omega)]
    have second := second?_of_lt hv (Nat.mod_lt v (show 0 < 64 by decide)) rest (by omega) (by omega)
      (by omega) (by omega)
    have value : (0xC0 + v / 64) % 32 * 64 + v % 64 = v := by omega
    simp only [List.cons_append, List.nil_append, lead, width, second, toNat_toUInt8 hv, named value]
    rfl
  split
  · have hv : 0xE0 + v / 4096 < 256 := by omega
    have width : width (0xE0 + v / 4096).toUInt8 = 3 := by
      rw [width_eq hv, if_neg (by omega), if_neg (by omega), if_neg (by omega), if_pos (by omega)]
    have second := second?_of_lt hv (Nat.mod_lt (v / 64) (show 0 < 64 by decide))
      ((0x80 + v % 64).toUInt8 :: rest) (by omega) (by omega) (by omega) (by omega)
    have third := continuation?_of_lt (Nat.mod_lt v (show 0 < 64 by decide))
    have value : (0xE0 + v / 4096) % 16 * 4096 + v / 64 % 64 * 64 + v % 64 = v := by omega
    simp only [List.cons_append, List.nil_append, lead, width, second, List.tail_cons,
      List.head?_cons, Option.bind_some, third, toNat_toUInt8 hv, named value]
    rfl
  · have hv : 0xF0 + v / 262144 < 256 := by omega
    have width : width (0xF0 + v / 262144).toUInt8 = 4 := by
      rw [width_eq hv, if_neg (by omega), if_neg (by omega), if_neg (by omega), if_neg (by omega),
        if_pos (by omega)]
    have second := second?_of_lt hv (Nat.mod_lt (v / 4096) (show 0 < 64 by decide))
      ((0x80 + v / 64 % 64).toUInt8 :: (0x80 + v % 64).toUInt8 :: rest) (by omega) (by omega)
      (by omega) (by omega)
    have third := continuation?_of_lt (Nat.mod_lt (v / 64) (show 0 < 64 by decide))
    have fourth := continuation?_of_lt (Nat.mod_lt v (show 0 < 64 by decide))
    have value : (0xF0 + v / 262144) % 8 * 262144 + v / 4096 % 64 * 4096 + v / 64 % 64 * 64 + v % 64 =
        v := by omega
    simp only [List.cons_append, List.nil_append, lead, width, second, List.tail_cons,
      List.head?_cons, Option.bind_some, third, fourth, toNat_toUInt8 hv, named value]
    rfl

theorem length_encodeChar_pos (c : Char) : 0 < (encodeChar c).length := by
  unfold encodeChar
  dsimp only
  split_ifs <;> simp

theorem drop_encodeChar (c : Char) (rest : List UInt8) :
    (encodeChar c ++ rest).drop ((encodeChar c).length - 1 + 1) = rest := by
  rw [Nat.sub_add_cancel (length_encodeChar_pos c), List.drop_left]

/-- No character has the separator of paths among its bytes but the separator itself. -/
theorem slash_of_mem_encodeChar {c : Char} (h : Path.separator ∈ encodeChar c) : c = '/' := by
  have valid := toNat_valid c
  have byte {n : Nat} (hn : n < 256) (heq : Path.separator = n.toUInt8) : n = 47 := by
    rw [← toNat_toUInt8 hn, ← heq]
    rfl
  unfold encodeChar at h
  dsimp only at h
  split at h
  · next hsmall =>
    have hnumber : c.toNat = 47 := byte (by omega) (List.mem_singleton.mp h)
    exact Char.toNat_inj.mp hnumber
  split at h
  · simp only [List.mem_cons, List.not_mem_nil, or_false] at h
    rcases h with h | h
    · have := byte (by omega) h
      omega
    · have := byte (by omega) h
      omega
  split at h
  · simp only [List.mem_cons, List.not_mem_nil, or_false] at h
    rcases h with h | h | h
    · have := byte (by omega) h
      omega
    · have := byte (by omega) h
      omega
    · have := byte (by omega) h
      omega
  · simp only [List.mem_cons, List.not_mem_nil, or_false] at h
    rcases h with h | h | h | h
    · have := byte (by omega) h
      omega
    · have := byte (by omega) h
      omega
    · have := byte (by omega) h
      omega
    · have := byte (by omega) h
      omega

/-! ## Texts -/

theorem encode_append (s t : String) : encode (s ++ t) = encode s ++ encode t := by
  simp [encode, encodeChars]

theorem decodeCharsLossy_go_encodeChars (cs : List Char) {fuel : Nat}
    (hfuel : (encodeChars cs).length ≤ fuel) :
    decodeCharsLossy.go fuel (encodeChars cs) = cs := by
  induction cs generalizing fuel with
  | nil => cases fuel <;> rfl
  | cons c cs ih =>
    have nonempty := length_encodeChar_pos c
    simp only [encodeChars, List.flatMap_cons, List.length_append] at hfuel ⊢
    obtain ⟨n, rfl⟩ := Nat.exists_eq_succ_of_ne_zero (by omega : fuel ≠ 0)
    rw [decodeCharsLossy.go, lead_encodeChar]
    simp only [drop_encodeChar]
    rw [← encodeChars, ih (by simp only [encodeChars]; omega)]

/-- **Texts read back** from their bytes. -/
theorem decodeLossy_encode (s : String) : decodeLossy (encode s) = s := by
  simp [decodeLossy, decodeCharsLossy, encode, decodeCharsLossy_go_encodeChars]

theorem decodeChars?_go_encodeChars (cs : List Char) {fuel : Nat}
    (hfuel : (encodeChars cs).length ≤ fuel) :
    decodeChars?.go fuel (encodeChars cs) = some cs := by
  induction cs generalizing fuel with
  | nil => cases fuel <;> rfl
  | cons c cs ih =>
    have nonempty := length_encodeChar_pos c
    simp only [encodeChars, List.flatMap_cons, List.length_append] at hfuel ⊢
    obtain ⟨n, rfl⟩ := Nat.exists_eq_succ_of_ne_zero (by omega : fuel ≠ 0)
    rw [decodeChars?.go, lead_encodeChar]
    simp only [drop_encodeChar]
    rw [← encodeChars, ih (by simp only [encodeChars]; omega)]
    rfl

theorem decode?_encode (s : String) : decode? (encode s) = some s := by
  simp [decode?, decodeChars?, encode, decodeChars?_go_encodeChars]

/-! ## Bytes that are texts -/

theorem width_cases (b : UInt8) :
    (width b = 1 ∧ b.toNat < 0x80) ∨ (width b = 2 ∧ 0xC2 ≤ b.toNat ∧ b.toNat < 0xE0) ∨
    (width b = 3 ∧ 0xE0 ≤ b.toNat ∧ b.toNat < 0xF0) ∨
    (width b = 4 ∧ 0xF0 ≤ b.toNat ∧ b.toNat < 0xF5) ∨ width b = 0 := by
  have hb : b = b.toNat.toUInt8 := (UInt8.ofNat_toNat).symm
  have hw := width_eq (UInt8.toNat_lt b)
  rw [← hb] at hw
  rw [hw]
  split_ifs <;> simp <;> omega

/-- The byte behind the first one of a character. -/
theorem second?_eq_some {b : UInt8} {rest : List UInt8} {x : Nat} (h : second? b rest = some x) :
    ∃ b₁ more, rest = b₁ :: more ∧ x = b₁.toNat % 64 ∧ 0x80 ≤ b₁.toNat ∧ b₁.toNat ≤ 0xBF ∧
      (b.toNat = 0xE0 → 0xA0 ≤ b₁.toNat) ∧ (b.toNat = 0xED → b₁.toNat ≤ 0x9F) ∧
      (b.toNat = 0xF0 → 0x90 ≤ b₁.toNat) ∧ (b.toNat = 0xF4 → b₁.toNat ≤ 0x8F) := by
  cases rest with
  | nil => simp [second?] at h
  | cons b₁ more =>
    rw [second?] at h
    split at h
    · next hin =>
      have hb : b = b.toNat.toUInt8 := (UInt8.ofNat_toNat).symm
      have hr := secondRange_eq (UInt8.toNat_lt b)
      rw [← hb] at hr
      rw [hr] at hin
      simp only [UInt8.le_iff_toNat_le] at hin
      refine ⟨b₁, more, rfl, (Option.some.inj h).symm, ?_⟩
      split_ifs at hin <;> simp at hin <;> omega
    · exact absurd h (Option.some_ne_none x).symm

/-- A byte further behind. -/
theorem continuation?_eq_some {rest : List UInt8} {x : Nat}
    (h : rest.head?.bind continuation? = some x) :
    ∃ b more, rest = b :: more ∧ x = b.toNat % 64 ∧ 0x80 ≤ b.toNat ∧ b.toNat ≤ 0xBF := by
  cases rest with
  | nil => simp at h
  | cons b more =>
    have h : continuation? b = some x := h
    rw [continuation?] at h
    split at h
    · next hin =>
      simp only [UInt8.le_iff_toNat_le] at hin
      exact ⟨b, more, rfl, (Option.some.inj h).symm, hin⟩
    · exact absurd h (Option.some_ne_none x).symm

theorem toUInt8_eq {n : Nat} {b : UInt8} (h : n = b.toNat) : n.toUInt8 = b := by
  subst h
  exact UInt8.ofNat_toNat

theorem toNat_ofNat {v : Nat} (h : v < 0xD800 ∨ 0xDFFF < v ∧ v < 0x110000) :
    (Char.ofNat v).toNat = v := by
  have valid : v.isValidChar := h
  rw [Char.ofNat, dif_pos valid]
  rfl

theorem eq_nil_of_lead {bytes : List UInt8} (h : lead bytes = .finished) : bytes = [] := by
  cases bytes with
  | nil => rfl
  | cons b rest =>
    simp only [lead] at h
    repeat' split at h
    all_goals exact absurd h Lead.noConfusion
theorem encodeChar_one {b : UInt8} (hb : b.toNat < 0x80) : encodeChar (Char.ofNat b.toNat) = [b] := by
  have value := toNat_ofNat (.inl (by omega : b.toNat < 0xD800))
  simp only [encodeChar, value, if_pos hb]
  rw [toUInt8_eq rfl]

theorem encodeChar_two {b b₁ : UInt8} (hb : 0xC2 ≤ b.toNat ∧ b.toNat < 0xE0)
    (h₁ : 0x80 ≤ b₁.toNat ∧ b₁.toNat ≤ 0xBF) :
    encodeChar (Char.ofNat (b.toNat % 32 * 64 + b₁.toNat % 64)) = [b, b₁] := by
  have value := toNat_ofNat (.inl (by omega : b.toNat % 32 * 64 + b₁.toNat % 64 < 0xD800))
  simp only [encodeChar, value]
  rw [if_neg (by omega), if_pos (by omega), toUInt8_eq (b := b) (by omega),
    toUInt8_eq (b := b₁) (by omega)]

/-- The second byte keeps the shorter forms and the halves of surrogate pairs out. -/
theorem encodeChar_three {b b₁ b₂ : UInt8} (hb : 0xE0 ≤ b.toNat ∧ b.toNat < 0xF0)
    (h₁ : 0x80 ≤ b₁.toNat ∧ b₁.toNat ≤ 0xBF) (hE0 : b.toNat = 0xE0 → 0xA0 ≤ b₁.toNat)
    (hED : b.toNat = 0xED → b₁.toNat ≤ 0x9F) (h₂ : 0x80 ≤ b₂.toNat ∧ b₂.toNat ≤ 0xBF) :
    encodeChar (Char.ofNat (b.toNat % 16 * 4096 + b₁.toNat % 64 * 64 + b₂.toNat % 64)) =
      [b, b₁, b₂] := by
  have value := toNat_ofNat
    (v := b.toNat % 16 * 4096 + b₁.toNat % 64 * 64 + b₂.toNat % 64) (by omega)
  simp only [encodeChar, value]
  rw [if_neg (by omega), if_neg (by omega), if_pos (by omega), toUInt8_eq (b := b) (by omega),
    toUInt8_eq (b := b₁) (by omega), toUInt8_eq (b := b₂) (by omega)]

/-- The second byte keeps the shorter forms and the numbers beyond the last character out. -/
theorem encodeChar_four {b b₁ b₂ b₃ : UInt8} (hb : 0xF0 ≤ b.toNat ∧ b.toNat < 0xF5)
    (h₁ : 0x80 ≤ b₁.toNat ∧ b₁.toNat ≤ 0xBF) (hF0 : b.toNat = 0xF0 → 0x90 ≤ b₁.toNat)
    (hF4 : b.toNat = 0xF4 → b₁.toNat ≤ 0x8F) (h₂ : 0x80 ≤ b₂.toNat ∧ b₂.toNat ≤ 0xBF)
    (h₃ : 0x80 ≤ b₃.toNat ∧ b₃.toNat ≤ 0xBF) :
    encodeChar (Char.ofNat (b.toNat % 8 * 262144 + b₁.toNat % 64 * 4096 + b₂.toNat % 64 * 64 +
      b₃.toNat % 64)) = [b, b₁, b₂, b₃] := by
  have value := toNat_ofNat (v := b.toNat % 8 * 262144 + b₁.toNat % 64 * 4096 +
    b₂.toNat % 64 * 64 + b₃.toNat % 64) (by omega)
  simp only [encodeChar, value]
  rw [if_neg (by omega), if_neg (by omega), if_neg (by omega), toUInt8_eq (b := b) (by omega),
    toUInt8_eq (b := b₁) (by omega), toUInt8_eq (b := b₂) (by omega),
    toUInt8_eq (b := b₃) (by omega)]

/-- What a character was read from are its bytes. -/
theorem encodeChar_of_lead {bytes : List UInt8} {c : Char} {more : Nat}
    (h : lead bytes = .scalar c more) :
    ∃ rest, bytes = encodeChar c ++ rest ∧ more + 1 = (encodeChar c).length := by
  cases bytes with
  | nil => exact absurd h Lead.noConfusion
  | cons b rest =>
    unfold lead at h
    rcases width_cases b with ⟨hw, hb⟩ | ⟨hw, hb⟩ | ⟨hw, hb⟩ | ⟨hw, hb⟩ | hw <;> simp only [hw] at h
    · obtain ⟨rfl, rfl⟩ := Lead.scalar.inj h
      rw [encodeChar_one hb]
      exact ⟨rest, rfl, rfl⟩
    · split at h
      · exact absurd h Lead.noConfusion
      next x hx =>
      obtain ⟨b₁, rest, rfl, rfl, low, high, -⟩ := second?_eq_some hx
      obtain ⟨rfl, rfl⟩ := Lead.scalar.inj h
      rw [encodeChar_two hb ⟨low, high⟩]
      exact ⟨rest, rfl, rfl⟩
    · split at h
      · exact absurd h Lead.noConfusion
      next x hx =>
      obtain ⟨b₁, rest, rfl, rfl, low, high, hE0, hED, -⟩ := second?_eq_some hx
      rw [List.tail_cons] at h
      split at h
      · exact absurd h Lead.noConfusion
      next y hy =>
      obtain ⟨b₂, rest, rfl, rfl, h₂⟩ := continuation?_eq_some hy
      obtain ⟨rfl, rfl⟩ := Lead.scalar.inj h
      rw [encodeChar_three hb ⟨low, high⟩ hE0 hED h₂]
      exact ⟨rest, rfl, rfl⟩
    · split at h
      · exact absurd h Lead.noConfusion
      next x hx =>
      obtain ⟨b₁, rest, rfl, rfl, low, high, -, -, hF0, hF4⟩ := second?_eq_some hx
      rw [List.tail_cons] at h
      split at h
      · exact absurd h Lead.noConfusion
      next y hy =>
      obtain ⟨b₂, rest, rfl, rfl, h₂⟩ := continuation?_eq_some hy
      rw [List.tail_cons] at h
      split at h
      · exact absurd h Lead.noConfusion
      next z hz =>
      obtain ⟨b₃, rest, rfl, rfl, h₃⟩ := continuation?_eq_some hz
      obtain ⟨rfl, rfl⟩ := Lead.scalar.inj h
      rw [encodeChar_four hb ⟨low, high⟩ hF0 hF4 h₂ h₃]
      exact ⟨rest, rfl, rfl⟩
    · exact absurd h Lead.noConfusion

theorem encodeChars_of_go {fuel : Nat} {bytes : List UInt8} {cs : List Char}
    (h : decodeChars?.go fuel bytes = some cs) : encodeChars cs = bytes := by
  induction fuel generalizing bytes cs with
  | zero =>
    rw [decodeChars?.go] at h
    split at h
    · next hempty =>
      obtain rfl := Option.some.inj h
      exact (List.isEmpty_iff.mp hempty).symm
    · exact absurd h (Option.some_ne_none cs).symm
  | succ fuel ih =>
    rw [decodeChars?.go] at h
    split at h
    · next hlead =>
      obtain rfl := Option.some.inj h
      exact (eq_nil_of_lead hlead).symm
    · exact absurd h (Option.some_ne_none cs).symm
    · next c more hlead =>
      obtain ⟨rest, rfl, hlength⟩ := encodeChar_of_lead hlead
      obtain ⟨others, hothers, rfl⟩ := Option.map_eq_some_iff.mp h
      rw [hlength, List.drop_left] at hothers
      rw [encodeChars, List.flatMap_cons, ← encodeChars, ih hothers]

/-- Bytes are read as a text exactly if they are its bytes. -/
theorem decode?_eq_some_iff {bytes : List UInt8} {s : String} :
    decode? bytes = some s ↔ encode s = bytes := by
  constructor
  · intro h
    obtain ⟨cs, hcs, rfl⟩ := Option.map_eq_some_iff.mp h
    rw [encode, String.toList_ofList]
    exact encodeChars_of_go hcs
  · rintro rfl
    exact decode?_encode s

end Utf8

/-- A path that a text writes shows that text. -/
@[simp]
theorem Path.text_ofText (s : String) : (Path.ofText s).text = s :=
  Utf8.decodeLossy_encode s

end ClusterControl

import ClusterControl.Net.Address
import ClusterControl.Proofs.Json.RoundTrip

/-!
# Written addresses are read back

An address has one written form, and the reader of addresses takes many.  This module proves that
the written form of every socket address is read back as that address: four bytes with points, eight
groups with the longest run of zeros left out, an address of the longer kind that maps one of the
shorter kind, with or without a scope, and a port.

* `number_toDigits` — a written number is read back up to the first character that is no digit.
* `IPv4.read_chars`, `IPv6.read_chars` — the written form of an address is read back wherever
  something follows it that it cannot go on with (`Chars.Stops`, `IPv6.Ends`).
* `zeroRun_spec` — what is left out of an address of the longer kind are zeros.
* `SocketAddress.parse?_text` — the text of a socket address is read as that address.
-/

namespace ClusterControl
namespace Chars

/-! ## Single characters and numbers -/

theorem given_cons (c : Char) (rest : List Char) : given c (c :: rest) = some ((), rest) := by
  simp [given]

theorem given_eq_none {c : Char} {cs : List Char} (h : cs.head? ≠ some c) : given c cs = none := by
  cases cs with
  | nil => rfl
  | cons x rest =>
    have hne : x ≠ c := by simpa using h
    exact if_neg hne

/-- A number to this base does not go on here. -/
def Stops (base : Nat) (rest : List Char) : Prop :=
  ∀ c, rest.head? = some c → digitIn? base c = none

theorem stops_nil (base : Nat) : Stops base [] := by
  intro c hc
  simp at hc

theorem stops_cons {base : Nat} {c : Char} (h : digitIn? base c = none) (rest : List Char) :
    Stops base (c :: rest) := by
  intro d hd
  rw [List.head?_cons, Option.some.injEq] at hd
  exact hd ▸ h

theorem stops_colon (rest : List Char) : Stops 16 (':' :: rest) :=
  stops_cons (by decide) rest

/-- What is no digit to the base of sixteen is none to the base of ten. -/
theorem Stops.ten {rest : List Char} (h : Stops 16 rest) : Stops 10 rest := by
  intro c hc
  have none16 := h c hc
  unfold digitIn? at none16 ⊢
  rw [Option.filter_eq_none_iff] at none16 ⊢
  intro d hd
  have := none16 d hd
  simp only [decide_eq_true_eq] at this ⊢
  omega

theorem digitIn?_digitChar {base d : Nat} (hbase : base ≤ 16) (h : d < base) :
    digitIn? base (Nat.digitChar d) = some d := by
  unfold digitIn?
  rw [Doc.hexDigit?_digitChar (Nat.lt_of_lt_of_le h hbase)]
  simp [h]

theorem numberOf_concat (base : Nat) (ds : List Char) (c : Char) :
    numberOf base (ds ++ [c]) = numberOf base ds * base + (digitIn? base c).getD 0 := by
  simp [numberOf]

theorem numberOf_toDigits {base : Nat} (hone : 1 < base) (hbase : base ≤ 16) (n : Nat) :
    numberOf base (Nat.toDigits base n) = n := by
  induction n using Nat.strongRecOn with
  | ind n ih =>
    rcases Nat.lt_or_ge n base with h | h
    · rw [Nat.toDigits_of_lt_base h, ← List.nil_append [_], numberOf_concat,
        digitIn?_digitChar hbase h]
      simp [numberOf]
    · have smaller : n / base < n := Nat.div_lt_self (by omega) hone
      rw [Nat.toDigits_of_base_le hone h, numberOf_concat, ih _ smaller,
        digitIn?_digitChar hbase (Nat.mod_lt n (by omega))]
      exact Nat.div_add_mod' n base

theorem isSome_of_mem_toDigits {base : Nat} (hone : 1 < base) (hbase : base ≤ 16) {n : Nat} :
    ∀ c ∈ Nat.toDigits base n, (digitIn? base c).isSome = true := by
  induction n using Nat.strongRecOn with
  | ind n ih =>
    intro c hc
    rcases Nat.lt_or_ge n base with h | h
    · rw [Nat.toDigits_of_lt_base h, List.mem_singleton] at hc
      rw [hc, digitIn?_digitChar hbase h]
      rfl
    · rw [Nat.toDigits_of_base_le hone h, List.mem_append, List.mem_singleton] at hc
      rcases hc with hc | rfl
      · exact ih _ (Nat.div_lt_self (by omega) hone) c hc
      · rw [digitIn?_digitChar hbase (Nat.mod_lt n (by omega))]
        rfl

/-- The digits of a number end where it stops. -/
theorem takeWhile_toDigits {base : Nat} (hone : 1 < base) (hbase : base ≤ 16) (n : Nat)
    {rest : List Char} (h : Stops base rest) :
    (Nat.toDigits base n ++ rest).takeWhile (fun c => (digitIn? base c).isSome) =
        Nat.toDigits base n ∧
      (Nat.toDigits base n ++ rest).dropWhile (fun c => (digitIn? base c).isSome) = rest := by
  have digits := isSome_of_mem_toDigits hone hbase (n := n)
  have stop : rest.takeWhile (fun c => (digitIn? base c).isSome) = [] ∧
      rest.dropWhile (fun c => (digitIn? base c).isSome) = rest := by
    cases rest with
    | nil => exact ⟨rfl, rfl⟩
    | cons c rest =>
      have hc : digitIn? base c = none := h c rfl
      simp [hc]
  rw [List.takeWhile_append_of_pos digits, List.dropWhile_append_of_pos digits, stop.1, stop.2]
  simp

/-- A written number is read back, if it is not too long and not too large. -/
theorem number_toDigits {base most max n : Nat} (padded : Bool) {rest : List Char} (hone : 1 < base)
    (hbase : base ≤ 16) (hlead : padded = true ∨ base = 10)
    (hlength : (Nat.toDigits base n).length ≤ most) (hmax : n ≤ max) (h : Stops base rest) :
    number base most padded max (Nat.toDigits base n ++ rest) = some (n, rest) := by
  obtain ⟨taken, dropped⟩ := takeWhile_toDigits hone hbase n h
  have nonempty : (Nat.toDigits base n).isEmpty = false := by
    rw [List.isEmpty_eq_false_iff]
    exact Nat.toDigits_ne_nil
  -- only zero itself is written with a zero in front
  have plain : (!padded && (Nat.toDigits base n).head? = some '0' &&
      1 < (Nat.toDigits base n).length) = false := by
    rcases hlead with rfl | rfl
    · rfl
    · obtain ⟨d, ds, heq, hzero⟩ := Doc.toDigits_eq_cons n
      rw [heq]
      by_cases hd : d = '0'
      · simp [hzero hd]
      · simp [hd]
  unfold number
  simp only [taken, dropped, numberOf_toDigits hone hbase, nonempty, plain]
  rw [if_neg (by simpa using hlength), if_neg (by simp), if_neg (by omega)]

/-- Where no digit stands no number is read. -/
theorem number_eq_none {base most max : Nat} {padded : Bool} {cs : List Char} (h : Stops base cs) :
    number base most padded max cs = none := by
  have none : cs.takeWhile (fun c => (digitIn? base c).isSome) = [] := by
    cases cs with
    | nil => rfl
    | cons c cs =>
      have hc : digitIn? base c = none := h c rfl
      simp [hc]
  unfold number
  simp [none]

/-- A number that was read ends where its digits do. -/
theorem rest_of_number {base most max n : Nat} {padded : Bool} {cs rest : List Char}
    (h : number base most padded max cs = some (n, rest)) :
    rest = cs.dropWhile fun c => (digitIn? base c).isSome := by
  simp only [number] at h
  split at h
  · simp at h
  · split at h
    · simp at h
    · split at h
      · simp at h
      · simp only [Option.some.injEq, Prod.mk.injEq] at h
        exact h.2.symm

end Chars

open Chars

/-! ## Addresses of four bytes -/

namespace IPv4

theorem readByte_byteChars (b : UInt8) {rest : List Char} (h : Stops 10 rest) :
    readByte (byteChars b ++ rest) = some (b, rest) := by
  have small := b.toNat_lt
  have length : (Nat.toDigits 10 b.toNat).length ≤ 3 :=
    (Nat.length_toDigits_le_iff (by decide) (by decide)).mpr (by omega)
  unfold readByte byteChars
  rw [number_toDigits false (by decide) (by decide) (Or.inr rfl) length (by omega) h]
  simp

theorem readByte_point (b : UInt8) (rest : List Char) :
    readByte (byteChars b ++ '.' :: rest) = some (b, '.' :: rest) :=
  readByte_byteChars b (stops_cons (by decide) rest)

/-- An address of four bytes is read back. -/
theorem read_chars (ip : IPv4) {rest : List Char} (h : Stops 10 rest) :
    read (ip.chars ++ rest) = some (ip, rest) := by
  simp only [read, chars, List.append_assoc, List.cons_append, readByte_point, given_cons,
    readByte_byteChars ip.d h, Option.bind_eq_bind, Option.bind_some]

/-- Where no point follows the first digits there is no address. -/
theorem read_eq_none {cs : List Char}
    (h : (cs.dropWhile fun c => (digitIn? 10 c).isSome).head? ≠ some '.') : read cs = none := by
  unfold read readByte
  cases hn : number 10 3 false 255 cs with
  | none => rfl
  | some p =>
    obtain ⟨n, rest⟩ := p
    have hrest := rest_of_number hn
    have none : given '.' rest = none := given_eq_none (hrest ▸ h)
    simp [none]

theorem upper_ofHalves (upper lower : UInt16) : (ofHalves upper lower).upper = upper := by
  have hu := upper.toNat_lt
  simp only [ofHalves, IPv4.upper, ← UInt16.toNat_inj, Nat.toUInt8_eq, UInt8.toNat_ofNat',
    Nat.toUInt16_eq, UInt16.toNat_ofNat']
  omega

theorem lower_ofHalves (upper lower : UInt16) : (ofHalves upper lower).lower = lower := by
  have hl := lower.toNat_lt
  simp only [ofHalves, IPv4.lower, ← UInt16.toNat_inj, Nat.toUInt8_eq, UInt8.toNat_ofNat',
    Nat.toUInt16_eq, UInt16.toNat_ofNat']
  omega

end IPv4

/-! ## Addresses of eight groups -/

namespace IPv6

/-- The groups of an address do not go on here: neither the last of them nor with another one. -/
structure Ends (rest : List Char) : Prop where
  digit : Stops 16 rest
  point : rest.head? ≠ some '.'
  mapped : readMapped false rest = none
  group : readGroup false rest = none

/-- Groups do not go on with anything but a colon, a point or a digit. -/
theorem ends_cons {c : Char} (hdigit : digitIn? 16 c = none) (hpoint : c ≠ '.') (hcolon : c ≠ ':')
    (rest : List Char) : Ends (c :: rest) where
  digit := stops_cons hdigit rest
  point := by simpa using hpoint
  mapped := by
    have none : given ':' (c :: rest) = none := given_eq_none (by simpa using hcolon)
    simp [readMapped, separator, none]
  group := by
    have none : given ':' (c :: rest) = none := given_eq_none (by simpa using hcolon)
    simp [readGroup, separator, none]

/-- Groups do not go on with two colons. -/
theorem ends_colons (rest : List Char) : Ends (':' :: ':' :: rest) where
  digit := stops_colon _
  point := by simp
  mapped := by
    have none : IPv4.read (':' :: rest) = none := IPv4.read_eq_none (by simp [digitIn?, hexDigit?])
    simp [readMapped, separator, given_cons, none]
  group := by
    have none : number 16 4 true 0xFFFF (':' :: rest) = none :=
      number_eq_none (stops_cons (by decide) rest)
    simp [readGroup, separator, given_cons, none]

/-- Where no digit stands there is no first group. -/
theorem readGroups_none {rest : List Char} (h : Stops 16 rest) (hpoint : rest.head? ≠ some '.')
    (left : Nat) : readGroups left true rest = ([], false, rest) := by
  have digits : rest.dropWhile (fun c => (digitIn? 10 c).isSome) = rest := by
    cases rest with
    | nil => rfl
    | cons c rest =>
      have hc : digitIn? 10 c = none := h.ten c rfl
      simp [hc]
  have mapped : readMapped true rest = none := by
    have none : IPv4.read rest = none := IPv4.read_eq_none (digits.symm ▸ hpoint)
    simp [readMapped, separator, none]
  have group : readGroup true rest = none := by
    have none : number 16 4 true 0xFFFF rest = none := number_eq_none h
    simp [readGroup, separator, none]
  cases left with
  | zero => rfl
  | succ left => simp [readGroups, mapped, group]

/-- No point follows the first decimal digits of a text without points. -/
theorem head?_dropWhile_ne_point {cs rest : List Char} (hcs : '.' ∉ cs) (h : Stops 10 rest)
    (hpoint : rest.head? ≠ some '.') :
    ((cs ++ rest).dropWhile fun c => (digitIn? 10 c).isSome).head? ≠ some '.' := by
  induction cs with
  | nil =>
    cases rest with
    | nil => simp
    | cons c rest =>
      have hc : digitIn? 10 c = none := h c rfl
      simpa [hc] using hpoint
  | cons c cs ih =>
    obtain ⟨hc, hcs⟩ := not_or.mp (fun hor => hcs (List.mem_cons.mpr hor))
    cases hdigit : digitIn? 10 c with
    | none => simpa [hdigit] using Ne.symm hc
    | some d => simpa [hdigit] using ih hcs

theorem point_not_mem_groupChars (g : UInt16) : '.' ∉ groupChars g := by
  intro hmem
  have digit := isSome_of_mem_toDigits (by decide) (by decide) '.' hmem
  exact absurd digit (by decide)

/-- A group is no address of the shorter kind. -/
theorem readMapped_groupChars (g : UInt16) {rest : List Char} (h : Stops 10 rest)
    (hpoint : rest.head? ≠ some '.') : IPv4.read (groupChars g ++ rest) = none :=
  IPv4.read_eq_none (head?_dropWhile_ne_point (point_not_mem_groupChars g) h hpoint)

theorem number_groupChars (g : UInt16) {rest : List Char} (h : Stops 16 rest) :
    number 16 4 true 0xFFFF (groupChars g ++ rest) = some (g.toNat, rest) := by
  have small := g.toNat_lt
  have length : (Nat.toDigits 16 g.toNat).length ≤ 4 :=
    (Nat.length_toDigits_le_iff (by decide) (by decide)).mpr (by omega)
  exact number_toDigits true (by decide) (by decide) (Or.inl rfl) length (by omega) h

/-- Groups that follow other ones. -/
def tailed (gs : List UInt16) : List Char :=
  gs.flatMap fun g => ':' :: groupChars g

theorem joined_cons (g : UInt16) (gs : List UInt16) :
    joined (g :: gs) = groupChars g ++ tailed gs := by
  induction gs generalizing g with
  | nil => simp [joined, tailed]
  | cons g' gs ih => simp [joined, tailed, ih]

theorem stops_tailed (gs : List UInt16) {rest : List Char} (h : Ends rest) :
    Stops 16 (tailed gs ++ rest) ∧ (tailed gs ++ rest).head? ≠ some '.' := by
  cases gs with
  | nil => exact ⟨h.digit, h.point⟩
  | cons g gs => exact ⟨stops_colon _, by simp [tailed]⟩

/-- A group is read with all that follows it. -/
theorem readGroups_group (left : Nat) {first : Bool} {g : UInt16} {cs rest : List Char}
    (hseparator : separator first cs = some ((), groupChars g ++ rest)) (h : Stops 16 rest)
    (hpoint : rest.head? ≠ some '.') :
    readGroups (left + 1) first cs =
      (g :: (readGroups left false rest).1, (readGroups left false rest).2) := by
  have mapped := readMapped_groupChars g h.ten hpoint
  have group := number_groupChars g h
  simp [readGroups, readMapped, readGroup, hseparator, mapped, group]

/-- Groups that follow other ones are read back up to where they end. -/
theorem readGroups_tailed {gs : List UInt16} {left : Nat} (hlength : gs.length ≤ left)
    {rest : List Char} (h : Ends rest) :
    readGroups left false (tailed gs ++ rest) = (gs, false, rest) := by
  induction gs generalizing left with
  | nil =>
    cases left with
    | zero => rfl
    | succ left => simp [readGroups, tailed, h.mapped, h.group]
  | cons g gs ih =>
    rw [List.length_cons] at hlength
    obtain ⟨left, rfl⟩ := Nat.exists_eq_add_of_le' (Nat.le_of_add_left_le hlength)
    obtain ⟨stops, point⟩ := stops_tailed gs h
    have hseparator : separator false (tailed (g :: gs) ++ rest) =
        some ((), groupChars g ++ (tailed gs ++ rest)) := by
      simp [separator, tailed, given_cons]
    rw [readGroups_group left hseparator stops point, ih (by omega)]

/-- Groups are read back up to where they end. -/
theorem readGroups_joined {gs : List UInt16} {left : Nat} (hlength : gs.length ≤ left)
    {rest : List Char} (h : Ends rest) :
    readGroups left true (joined gs ++ rest) = (gs, false, rest) := by
  cases gs with
  | nil => exact readGroups_none h.digit h.point left
  | cons g gs =>
    rw [List.length_cons] at hlength
    obtain ⟨left, rfl⟩ := Nat.exists_eq_add_of_le' (Nat.le_of_add_left_le hlength)
    obtain ⟨stops, point⟩ := stops_tailed gs h
    rw [joined_cons, List.append_assoc, readGroups_group left rfl stops point,
      readGroups_tailed (by omega) h]

/-! ### What is left out -/

/-- At the place of the longest run of zeros stand as many zeros. -/
theorem zeroRun_spec (groups : List UInt16) :
    (zeroRun groups).2 ≤ zerosAt (groups.drop (zeroRun groups).1) := by
  unfold zeroRun
  refine List.foldlRecOn (motive := fun best : Nat × Nat => best.2 ≤ zerosAt (groups.drop best.1))
    _ _ (Nat.zero_le _) fun best hbest i _ => ?_
  dsimp only
  split
  · exact Nat.le_refl _
  · exact hbest

theorem take_zerosAt {groups : List UInt16} {k : Nat} (h : k ≤ zerosAt groups) :
    groups.take k = List.replicate k 0 := by
  induction groups generalizing k with
  | nil =>
    obtain rfl : k = 0 := by simpa [zerosAt] using h
    rfl
  | cons g groups ih =>
    cases k with
    | zero => rfl
    | succ k =>
      by_cases hg : g = 0
      · subst hg
        have hk : k ≤ zerosAt groups := by simpa [zerosAt] using h
        rw [List.take_succ_cons, ih hk, List.replicate_succ]
      · simp [zerosAt, hg] at h

/-- Groups are those before a run of zeros, the zeros, and those after it. -/
theorem split_zeros {groups : List UInt16} {start run : Nat}
    (h : run ≤ zerosAt (groups.drop start)) :
    groups.take start ++ List.replicate run 0 ++ groups.drop (start + run) = groups := by
  rw [← take_zerosAt h, List.append_assoc, ← List.drop_drop, List.take_append_drop,
    List.take_append_drop]

theorem zerosAt_le (groups : List UInt16) : zerosAt groups ≤ groups.length :=
  (List.takeWhile_prefix _).length_le

/-! ### The written form -/

/-- An address is read back from the groups before and after what is left out. -/
theorem read_shortened (ip : IPv6) {start run : Nat} (hrun : 0 < run)
    (hzeros : run ≤ zerosAt (ip.groups.drop start)) {rest : List Char} (h : Ends rest) :
    read (joined (ip.groups.take start) ++
      ':' :: ':' :: (joined (ip.groups.drop (start + run)) ++ rest)) = some (ip, rest) := by
  have length := ip.length_groups
  have fits : start + run ≤ 8 := by
    have := zerosAt_le (ip.groups.drop start)
    rw [List.length_drop] at this
    omega
  have head : (ip.groups.take start).length = start := by
    rw [List.length_take]
    omega
  have tail : (ip.groups.drop (start + run)).length = 8 - (start + run) := by
    rw [List.length_drop, length]
  have readHead := readGroups_joined (by omega : (ip.groups.take start).length ≤ 8)
    (ends_colons (joined (ip.groups.drop (start + run)) ++ rest))
  have readTail := readGroups_joined
    (by omega : (ip.groups.drop (start + run)).length ≤ 7 - start) h
  have gap : 8 - start - (8 - (start + run)) = run := by omega
  have whole : ofGroups? (ip.groups.take start ++ List.replicate run 0 ++
      ip.groups.drop (start + run)) = some ip := by
    rw [split_zeros hzeros]
    exact dif_pos length
  simp only [read, readHead, head, readTail, tail, gap, given_cons, whole, Option.bind_eq_bind,
    Option.bind_some]
  rw [if_neg (by omega)]
  rfl

/-- An address without anything left out is read back from its eight groups. -/
theorem read_joined (ip : IPv6) {rest : List Char} (h : Ends rest) :
    read (joined ip.groups ++ rest) = some (ip, rest) := by
  have length := ip.length_groups
  have groups := readGroups_joined (by omega : ip.groups.length ≤ 8) h
  have whole : ofGroups? ip.groups = some ip := dif_pos length
  simp [read, groups, length, whole]

/-- An address that maps one of the shorter kind is read back. -/
theorem read_mapped (ip : IPv6) {v4 : IPv4} (hmapped : ip.mapped? = some v4) {rest : List Char}
    (h : Ends rest) : read ("::ffff:".toList ++ (v4.chars ++ rest)) = some (ip, rest) := by
  unfold mapped? at hmapped
  split at hmapped
  · next x y hgroups =>
    obtain rfl := Option.some.inj hmapped
    have shorter := IPv4.read_chars (IPv4.ofHalves x y) h.digit.ten
    have text : "::ffff:".toList ++ ((IPv4.ofHalves x y).chars ++ rest) =
        ':' :: ':' :: (groupChars 0xFFFF ++ ':' :: ((IPv4.ofHalves x y).chars ++ rest)) := by
      have marks : "::ffff:".toList = ':' :: ':' :: (groupChars 0xFFFF ++ [':']) := by decide
      rw [marks]
      simp
    have readLast : readGroups 6 false (':' :: ((IPv4.ofHalves x y).chars ++ rest)) =
        ([x, y], true, rest) := by
      simp [readGroups, readMapped, separator, given_cons, shorter, IPv4.upper_ofHalves,
        IPv4.lower_ofHalves]
    have readTail : readGroups 7 true (groupChars 0xFFFF ++
        ':' :: ((IPv4.ofHalves x y).chars ++ rest)) = ([0xFFFF, x, y], true, rest) := by
      rw [readGroups_group 6 rfl (stops_colon _) (by simp), readLast]
    have readHead := readGroups_none (stops_colon
      (':' :: (groupChars 0xFFFF ++ ':' :: ((IPv4.ofHalves x y).chars ++ rest)))) (by simp) 8
    have whole : ofGroups? [0, 0, 0, 0, 0, 0xFFFF, x, y] = some ip := by
      rw [← hgroups]
      exact dif_pos ip.length_groups
    rw [text]
    simp [read, readHead, given_cons, readTail, whole]
  · simp at hmapped

/-- An address of eight groups is read back. -/
theorem read_chars (ip : IPv6) {rest : List Char} (h : Ends rest) :
    read (ip.chars ++ rest) = some (ip, rest) := by
  unfold chars
  cases hmapped : ip.mapped? with
  | some v4 =>
    rw [← read_mapped ip hmapped h, List.append_assoc]
  | none =>
    dsimp only
    split
    · next hrun =>
      have shortened := read_shortened ip (Nat.lt_of_succ_lt hrun) (zeroRun_spec ip.groups) h
      simpa using shortened
    · exact read_joined ip h

end IPv6

/-! ## Socket addresses -/

namespace SocketAddress

theorem readPort_toDigits (port : UInt16) :
    readPort (':' :: Nat.toDigits 10 port.toNat) = some (port, []) := by
  have small := port.toNat_lt
  have number : number 10 (Nat.toDigits 10 port.toNat).length true 0xFFFF
      (Nat.toDigits 10 port.toNat ++ []) = some (port.toNat, []) :=
    number_toDigits true (by decide) (by decide) (Or.inl rfl) (Nat.le_refl _) (by omega)
      (stops_nil 10)
  rw [List.append_nil] at number
  simp [readPort, given_cons, number]

theorem readScope_toDigits (scope : UInt32) (rest : List Char) :
    readScope ('%' :: (Nat.toDigits 10 scope.toNat ++ ']' :: rest)) =
      some (scope, ']' :: rest) := by
  have small := scope.toNat_lt
  have stops : Stops 10 (']' :: rest) := stops_cons (by decide) rest
  have length : (Nat.toDigits 10 scope.toNat).length ≤
      (Nat.toDigits 10 scope.toNat ++ ']' :: rest).length := by
    simp
  have number := number_toDigits true (by decide) (by decide) (Or.inl rfl) length
    (by omega : scope.toNat ≤ 0xFFFFFFFF) stops
  unfold readScope
  simp only [given_cons, number, Option.bind_eq_bind, Option.bind_some, Option.some.injEq,
    Prod.mk.injEq, and_true]
  exact UInt32.ofNat_toNat

/-- The scope of an address, or none, is read back. -/
theorem readScope_scopeChars (scope : UInt32) (rest : List Char) :
    (readScope (scopeChars scope ++ ']' :: rest)).getD (0, scopeChars scope ++ ']' :: rest) =
      (scope, ']' :: rest) := by
  unfold scopeChars
  split
  · next h =>
    have none : given '%' (']' :: rest) = none := given_eq_none (by simp)
    simp [readScope, none, h]
  · simp [readScope_toDigits]

theorem ends_scopeChars (scope : UInt32) (rest : List Char) :
    IPv6.Ends (scopeChars scope ++ ']' :: rest) := by
  unfold scopeChars
  split
  · exact IPv6.ends_cons (by decide) (by decide) (by decide) rest
  · exact IPv6.ends_cons (by decide) (by decide) (by decide) _

/-- The characters of every socket address are read as that address. -/
theorem ofChars?_chars (a : SocketAddress) : ofChars? a.chars = some a := by
  cases a with
  | v4 ip port =>
    have address := IPv4.read_chars ip (stops_colon (Nat.toDigits 10 port.toNat)).ten
    simp [ofChars?, chars, readV4, address, readPort_toDigits]
  | v6 ip scope port =>
    have shorter : IPv4.read (chars (v6 ip scope port)) = none :=
      IPv4.read_eq_none (by simp [chars, digitIn?, hexDigit?])
    have address := IPv6.read_chars ip
      (ends_scopeChars scope (':' :: Nat.toDigits 10 port.toNat))
    have tail := readScope_scopeChars scope (':' :: Nat.toDigits 10 port.toNat)
    have longer : readV6 (chars (v6 ip scope port)) = some (v6 ip scope port, []) := by
      simp [readV6, chars, given_cons, address, tail, readPort_toDigits]
    simp [ofChars?, readV4, shorter, longer]

/-- The text of every socket address is read as that address. -/
theorem parse?_text (a : SocketAddress) : parse? a.text = some a := by
  unfold parse? text
  rw [String.toList_ofList]
  exact ofChars?_chars a

end SocketAddress
end ClusterControl

import Mathlib.Algebra.Ring.Nat
import Mathlib.Data.List.Basic
import Letterhead.Text.Utf8

/-!
# Bytes and texts

The bytes of a text are read back as that text. Any other bytes are read as a text with other bytes,
so that bytes keep their place just if they are those of a text. ASCII characters are bytes of their
own: reading and writing neither make nor lose one.

* `decodeFrom_utf8EncodeChar`, `decode_encode`, `encode_injective` — what is written is read back;
* `IsText`, `encode_decode_eq_iff` — the bytes that stay as they are;
* `Begun.Sound`, `keeps_step`, `of_mem_decode` — what a character that is begun can become, and
  where ASCII characters come from;
* `of_mem_encode` — the bytes that are ASCII.
-/

namespace Letterhead.Utf8

/-! ### Reading what was written -/

section Reading

variable {b n : ℕ} (rest : List UInt8)

theorem first_of_one (h : b < 0x80) : first b = ([Char.ofNat b], none) := if_pos h

theorem first_of_two (hleast : 0xC2 ≤ b) (hgreatest : b < 0xE0) :
    first b = ([], some { bits := b - 0xC0, owed := 0 }) := by
  rw [first, if_neg (by omega), if_neg (by omega), if_pos hgreatest]

theorem first_of_three (hleast : 0xE0 ≤ b) (hgreatest : b < 0xF0) :
    first b = ([], some {
      bits := b - 0xE0
      owed := 1
      least := if b = 0xE0 then 0xA0 else 0x80
      greatest := if b = 0xED then 0x9F else 0xBF }) := by
  rw [first, if_neg (by omega), if_neg (by omega), if_neg (by omega), if_pos hgreatest]

theorem first_of_four (hleast : 0xF0 ≤ b) (hgreatest : b < 0xF5) :
    first b = ([], some {
      bits := b - 0xF0
      owed := 2
      least := if b = 0xF0 then 0x90 else 0x80
      greatest := if b = 0xF4 then 0x8F else 0xBF }) := by
  rw [first, if_neg (by omega), if_neg (by omega), if_neg (by omega), if_neg (by omega),
    if_pos hgreatest]

theorem decodeFrom_first (h : n < 0x100) :
    decodeFrom none (UInt8.ofNat n :: rest) = (first n).1 ++ decodeFrom (first n).2 rest := by
  rw [decodeFrom, UInt8.toNat_ofNat_of_lt' h]
  rfl

section Begun

variable {p : Begun} (hn : n < 0x100) (hleast : p.least ≤ n) (hgreatest : n ≤ p.greatest)
include hn hleast hgreatest

theorem decodeFrom_next :
    decodeFrom (some p) (UInt8.ofNat n :: rest) = (p.next n).1 ++ decodeFrom (p.next n).2 rest := by
  rw [decodeFrom, UInt8.toNat_ofNat_of_lt' hn, step, decide_eq_true hleast,
    decide_eq_true hgreatest, Bool.and_true, if_pos rfl]

/-- A byte in the middle of a character adds its bits. -/
theorem decodeFrom_middle {owed : ℕ} (howed : p.owed = owed + 1) :
    decodeFrom (some p) (UInt8.ofNat n :: rest) =
      decodeFrom (some { bits := p.bits * 0x40 + (n - 0x80), owed }) rest := by
  rw [decodeFrom_next rest hn hleast hgreatest, Begun.next, howed]
  rfl

/-- The last byte of a character makes it complete. -/
theorem decodeFrom_last (howed : p.owed = 0) :
    decodeFrom (some p) (UInt8.ofNat n :: rest) =
      Char.ofNat (p.bits * 0x40 + (n - 0x80)) :: decodeFrom none rest := by
  rw [decodeFrom_next rest hn hleast hgreatest, Begun.next, howed]
  rfl

end Begun

/-- The bytes of a character are read as that character. -/
theorem decodeFrom_utf8EncodeChar (c : Char) :
    decodeFrom none (String.utf8EncodeChar c ++ rest) = c :: decodeFrom none rest := by
  have hvalid : c.toNat < 0xD800 ∨ 0xDFFF < c.toNat ∧ c.toNat < 0x110000 := c.valid
  have hchar : ∀ {m}, m = c.toNat → Char.ofNat m = c := by
    rintro m rfl
    exact Char.ofNat_toNat c
  unfold String.utf8EncodeChar
  rw [show c.val.toNat = c.toNat from rfl]
  generalize c.toNat = v at hvalid hchar
  dsimp only
  -- one case for each number of bytes; the second of three or four has bounds of its own
  split_ifs with h1 h2 h3
  all_goals simp only [List.cons_append, List.nil_append]
  · rw [decodeFrom_first _ (by omega), first_of_one (by omega), hchar rfl]
    rfl
  · rw [decodeFrom_first _ (by omega), first_of_two (by omega) (by omega), List.nil_append,
      decodeFrom_last _ (by omega) (by dsimp only; omega) (by dsimp only; omega) rfl,
      hchar (by dsimp only; omega)]
  · rw [decodeFrom_first _ (by omega), first_of_three (by omega) (by omega), List.nil_append,
      decodeFrom_middle _ (by omega) (by dsimp only; split <;> omega)
        (by dsimp only; split <;> omega) rfl,
      decodeFrom_last _ (by omega) (by dsimp only; omega) (by dsimp only; omega) rfl,
      hchar (by dsimp only; omega)]
  · rw [decodeFrom_first _ (by omega), first_of_four (by omega) (by omega), List.nil_append,
      decodeFrom_middle _ (by omega) (by dsimp only; split <;> omega)
        (by dsimp only; split <;> omega) rfl,
      decodeFrom_middle _ (by omega) (by dsimp only; omega) (by dsimp only; omega) rfl,
      decodeFrom_last _ (by omega) (by dsimp only; omega) (by dsimp only; omega) rfl,
      hchar (by dsimp only; omega)]

/-- **What is written is read back.** -/
theorem decode_encode (cs : List Char) : decode (encode cs) = cs := by
  induction cs with
  | nil => rfl
  | cons c rest ih =>
    rw [encode, List.flatMap_cons, decode, decodeFrom_utf8EncodeChar]
    exact congrArg (c :: ·) ih

theorem encode_injective : Function.Injective encode :=
  Function.LeftInverse.injective decode_encode

end Reading

/-! ### Bytes that are a text -/

/-- Whether bytes are those of a text. -/
def IsText (bytes : List UInt8) : Prop :=
  ∃ cs, encode cs = bytes

/-- Read and written again, bytes stay as they are just if they are a text. -/
theorem encode_decode_eq_iff {bytes : List UInt8} :
    encode (decode bytes) = bytes ↔ IsText bytes := by
  constructor
  · exact fun h => ⟨decode bytes, h⟩
  · rintro ⟨cs, rfl⟩
    rw [decode_encode]

/-! ### ASCII -/

/-- Whether a character that is begun can become one beyond ASCII only, whatever bytes follow. -/
structure Begun.Sound (p : Begun) : Prop where
  tail_le : 0x80 ≤ p.least
  ascii_le : 0x80 ≤ (p.bits * 0x40 + (p.least - 0x80)) * 0x40 ^ p.owed
  /-- The numbers that it can become are those of characters. -/
  isValid : (p.bits * 0x40 + (p.greatest - 0x80) + 1) * 0x40 ^ p.owed ≤ 0xD800 ∨
    0xE000 ≤ (p.bits * 0x40 + (p.least - 0x80)) * 0x40 ^ p.owed ∧
      (p.bits * 0x40 + (p.greatest - 0x80) + 1) * 0x40 ^ p.owed ≤ 0x110000

/-- Whether a byte leaves a sound state, and gives no ASCII character but itself. -/
def Keeps (b : ℕ) (progress : List Char × Option Begun) : Prop :=
  (∀ p, progress.2 = some p → p.Sound) ∧ ∀ c ∈ progress.1, c.toNat < 0x80 → c.toNat = b

theorem replacement_not_ascii : ¬ replacement.toNat < 0x80 := by decide

theorem toNat_ofNat_of_valid {n : ℕ} (h : n < 0xD800 ∨ 0xE000 ≤ n ∧ n < 0x110000) :
    (Char.ofNat n).toNat = n := by
  have hvalid : n.isValidChar := h.imp_right fun ⟨hle, hlt⟩ => ⟨by omega, hlt⟩
  rw [Char.ofNat, dif_pos hvalid]
  rfl

theorem keeps_first (b : ℕ) : Keeps b (first b) := by
  have hstray : Keeps b ([replacement], none) := by
    refine ⟨fun p hp => (nomatch hp), fun c hc hascii => ?_⟩
    rw [List.mem_singleton.mp hc] at hascii
    exact absurd hascii replacement_not_ascii
  have hbegun : ∀ {p : Begun}, p.Sound → Keeps b ([], some p) := by
    intro p hp
    refine ⟨fun q hq => ?_, fun c hc => absurd hc List.not_mem_nil⟩
    rwa [← Option.some.inj hq]
  unfold first
  split
  · refine ⟨fun p hp => (nomatch hp), fun c hc _ => ?_⟩
    rw [List.mem_singleton.mp hc, toNat_ofNat_of_valid (by omega)]
  split
  · exact hstray
  split
  · refine hbegun ⟨?_, ?_, ?_⟩
    all_goals
      dsimp only
      omega
  split
  · refine hbegun ⟨?_, ?_, ?_⟩
    all_goals
      dsimp only
      split_ifs
      all_goals omega
  split
  · refine hbegun ⟨?_, ?_, ?_⟩
    all_goals
      dsimp only
      split_ifs
      all_goals omega
  · exact hstray

theorem keeps_next {p : Begun} (h : p.Sound) {b : ℕ} (hleast : p.least ≤ b)
    (hgreatest : b ≤ p.greatest) : Keeps b (p.next b) := by
  obtain ⟨bits, owed, least, greatest⟩ := p
  obtain ⟨htail, hascii, hvalid⟩ := h
  dsimp only at htail hascii hvalid hleast hgreatest
  unfold Begun.next
  cases owed with
  | zero =>
    refine ⟨fun p hp => (nomatch hp), fun c hc hlt => ?_⟩
    dsimp only at hc
    rw [List.mem_singleton.mp hc, toNat_ofNat_of_valid (by omega)] at hlt
    omega
  | succ owed =>
    -- what the next bytes can make of it now, they could before
    have hlow : (bits * 0x40 + (least - 0x80)) * 0x40 ^ (owed + 1) ≤
        ((bits * 0x40 + (b - 0x80)) * 0x40 + (0x80 - 0x80)) * 0x40 ^ owed := by
      rw [Nat.pow_succ', ← Nat.mul_assoc]
      exact Nat.mul_le_mul_right _ (by omega)
    have hhigh : ((bits * 0x40 + (b - 0x80)) * 0x40 + (0xBF - 0x80) + 1) * 0x40 ^ owed ≤
        (bits * 0x40 + (greatest - 0x80) + 1) * 0x40 ^ (owed + 1) := by
      rw [Nat.pow_succ', ← Nat.mul_assoc]
      exact Nat.mul_le_mul_right _ (by omega)
    refine ⟨fun q hq => ?_, fun c hc => absurd hc List.not_mem_nil⟩
    obtain rfl := Option.some.inj hq
    refine ⟨Nat.le_refl _, Nat.le_trans hascii hlow, ?_⟩
    dsimp only
    omega

/-- **A byte** leaves a sound state sound. -/
theorem keeps_step {begun : Option Begun} (h : ∀ p, begun = some p → p.Sound) (b : ℕ) :
    Keeps b (step begun b) := by
  cases begun with
  | none => exact keeps_first b
  | some p =>
    unfold step
    dsimp only
    split_ifs with hwithin
    · rw [Bool.and_eq_true, decide_eq_true_eq, decide_eq_true_eq] at hwithin
      exact keeps_next (h p rfl) hwithin.1 hwithin.2
    · obtain ⟨hsound, hown⟩ := keeps_first b
      refine ⟨hsound, List.forall_mem_cons.mpr ⟨?_, hown⟩⟩
      exact fun hascii => absurd hascii replacement_not_ascii

theorem of_mem_decodeFrom {begun : Option Begun} (h : ∀ p, begun = some p → p.Sound)
    {bytes : List UInt8} {c : Char} (hc : c ∈ decodeFrom begun bytes) (hascii : c.toNat < 0x80) :
    UInt8.ofNat c.toNat ∈ bytes := by
  induction bytes generalizing begun with
  | nil =>
    rw [decodeFrom] at hc
    split at hc
    · rw [List.mem_singleton.mp hc] at hascii
      exact absurd hascii replacement_not_ascii
    · exact absurd hc List.not_mem_nil
  | cons b rest ih =>
    obtain ⟨hsound, hown⟩ := keeps_step h b.toNat
    rw [decodeFrom, List.mem_append] at hc
    rcases hc with hc | hc
    · rw [hown c hc hascii, UInt8.ofNat_toNat]
      exact List.mem_cons_self
    · exact List.mem_cons_of_mem _ (ih hsound hc)

/-- **An ASCII character is read from its own byte.** -/
theorem of_mem_decode {bytes : List UInt8} {c : Char} (hc : c ∈ decode bytes)
    (hascii : c.toNat < 0x80) : UInt8.ofNat c.toNat ∈ bytes := by
  have hstart : ∀ p, (none : Option Begun) = some p → p.Sound := fun p hp => nomatch hp
  exact of_mem_decodeFrom hstart hc hascii

/-- A byte that is ASCII is the writing of a character. -/
theorem of_mem_utf8EncodeChar {b : UInt8} {c : Char} (hb : b ∈ String.utf8EncodeChar c)
    (hascii : b.toNat < 0x80) : b.toNat = c.toNat := by
  have hlarge : ∀ {m}, m < 0x100 → 0x80 ≤ m → b ≠ UInt8.ofNat m := by
    rintro m hm hle rfl
    rw [UInt8.toNat_ofNat_of_lt' hm] at hascii
    omega
  unfold String.utf8EncodeChar at hb
  rw [show c.val.toNat = c.toNat from rfl] at hb
  generalize c.toNat = v at hb
  dsimp only at hb
  split_ifs at hb with h1 h2 h3
  · rw [List.mem_singleton.mp hb, UInt8.toNat_ofNat_of_lt' (by omega : v < 0x100)]
  all_goals
    exfalso
    simp only [List.mem_cons, List.not_mem_nil, or_false] at hb
  · rcases hb with hb | hb
    all_goals exact hlarge (by omega) (by omega) hb
  · rcases hb with hb | hb | hb
    all_goals exact hlarge (by omega) (by omega) hb
  · have hvalid : v / 262144 % 8 + 240 < 0x100 := by omega
    rcases hb with hb | hb | hb | hb
    all_goals exact hlarge (by omega) (by omega) hb

/-- **A byte that is ASCII is an ASCII character of the text.** -/
theorem of_mem_encode {b : UInt8} {cs : List Char} (hb : b ∈ encode cs) (hascii : b.toNat < 0x80) :
    Char.ofNat b.toNat ∈ cs := by
  obtain ⟨c, hc, hmem⟩ := List.mem_flatMap.mp hb
  rwa [of_mem_utf8EncodeChar hmem hascii, Char.ofNat_toNat]

end Letterhead.Utf8

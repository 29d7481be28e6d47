import Letterhead.Json.Basic
import Letterhead.Decimal.Reading

/-!
# The tokens of a JSON text

A text is cut into tokens from the left; where it stops being JSON the last token says so. A
number that no floating-point number can hold and a string with half a surrogate pair are tokens
without a value: a reader that skips them need not mind.

* `Token.scanString`, `Token.scanNumber` — one literal, and what is left, which is shorter;
* `tokens` — the tokens of a text.
-/

namespace Letterhead.Json

/-- A token. -/
inductive Token where
  | openArray
  | closeArray
  | openObject
  | closeObject
  | comma
  | colon
  | null
  | bool (b : Bool)
  | number (n : Option Number)
  | string (s : Option String)
  /-- From here on the text is not JSON. -/
  | invalid

namespace Token

/-! ### Strings -/

/-- The value of a hexadecimal digit. -/
def hexValue? (c : Char) : Option Nat :=
  if '0' ≤ c && c ≤ '9' then some (c.toNat - 48)
  else if 'a' ≤ c && c ≤ 'f' then some (c.toNat - 87)
  else if 'A' ≤ c && c ≤ 'F' then some (c.toNat - 55)
  else none

/-- The value of four hexadecimal digits. -/
def hexUnit? (a b c d : Char) : Option Nat := do
  return ((← hexValue? a) * 16 + (← hexValue? b)) * 256 + (← hexValue? c) * 16 + (← hexValue? d)

/-- The character that a letter stands for after a backslash. -/
def escaped? (c : Char) : Option Char :=
  match c with
  | '"' => some '"'
  | '\\' => some '\\'
  | '/' => some '/'
  | 'b' => some '\x08'
  | 'f' => some '\x0c'
  | 'n' => some '\n'
  | 'r' => some '\r'
  | 't' => some '\t'
  | _ => none

/-- The characters of a string literal up to its closing quote, last first before `done`, and what
follows the quote. A control character is not allowed in a literal. -/
def literalBody (done : List Char) : List Char → Option (List Char × List Char)
  | [] => none
  | '"' :: rest => some (done.reverse, rest)
  | '\\' :: c :: rest => literalBody (c :: '\\' :: done) rest
  | c :: rest => if c.toNat < 0x20 then none else literalBody (c :: done) rest

/-- The 16-bit units written by escapes and the code points of the other characters, last first
before `done`; nothing if an escape is none. -/
def literalUnits (done : List Nat) : List Char → Option (List Nat)
  | [] => some done.reverse
  | '\\' :: 'u' :: a :: b :: c :: d :: rest =>
    match hexUnit? a b c d with
    | some unit => literalUnits (unit :: done) rest
    | none => none
  | '\\' :: c :: rest =>
    match escaped? c with
    | some e => literalUnits (e.toNat :: done) rest
    | none => none
  | c :: rest => if c = '\\' then none else literalUnits (c.toNat :: done) rest

/-- The characters that units stand for, last first before `done`: two halves of a surrogate pair
are one character. Nothing if a half stands alone. -/
def pairUnits (done : List Char) : List Nat → Option (List Char)
  | [] => some done.reverse
  | [u] => if 0xD800 ≤ u && u ≤ 0xDFFF then none else some (Char.ofNat u :: done).reverse
  | u :: v :: rest =>
    if 0xD800 ≤ u && u < 0xDC00 && 0xDC00 ≤ v && v ≤ 0xDFFF then
      pairUnits (Char.ofNat ((u - 0xD800) * 0x400 + (v - 0xDC00) + 0x10000) :: done) rest
    else if 0xD800 ≤ u && u ≤ 0xDFFF then none
    else pairUnits (Char.ofNat u :: done) (v :: rest)

/-- A string literal after its opening quote, and what follows its closing quote. -/
def scanString (cs : List Char) : Option (Option String × List Char) := do
  let (body, rest) ← literalBody [] cs
  let units ← literalUnits [] body
  return ((pairUnits [] units).map String.ofList, rest)

theorem literalBody_length {done body cs rest : List Char}
    (h : literalBody done cs = some (body, rest)) : rest.length < cs.length := by
  fun_induction literalBody done cs with
  | case1 => cases h
  | case2 done r =>
    simp only [Option.some.injEq, Prod.mk.injEq] at h
    simp [h.2]
  | case3 done c r ih => have := ih h; simp only [List.length_cons]; omega
  | case4 => cases h
  | case5 done c r _ _ _ ih => have := ih h; simp only [List.length_cons]; omega

theorem scanString_length {cs rest : List Char} {s : Option String}
    (h : scanString cs = some (s, rest)) : rest.length < cs.length := by
  simp only [scanString, bind, Option.bind_eq_some_iff, pure, Option.some.injEq,
    Prod.mk.injEq] at h
  obtain ⟨⟨body, r⟩, hb, _, _, _, rfl⟩ := h
  exact literalBody_length hb

/-! ### Numbers -/

/-- The value of decimal digits. -/
def natOf (ds : List Char) : Nat :=
  ds.foldl (fun n d => n * 10 + (d.toNat - 48)) 0

/-- Digits from the front of a text, and what follows them. -/
def digits (cs : List Char) : List Char × List Char :=
  (cs.takeWhile Char.isDigit, cs.dropWhile Char.isDigit)

theorem digits_length (cs : List Char) : (digits cs).2.length ≤ cs.length :=
  (List.dropWhile_suffix _).length_le

/-- The fraction of a number, which may be missing: its digits and what follows. A point without
a digit after it is no fraction. -/
def fraction? : List Char → Option (List Char × List Char)
  | '.' :: rest =>
    let (ds, rest') := digits rest
    if ds.isEmpty then none else some (ds, rest')
  | cs => some ([], cs)

/-- Whether a minus sign comes first, and what follows a sign. -/
def sign : List Char → Bool × List Char
  | '+' :: rest => (false, rest)
  | '-' :: rest => (true, rest)
  | cs => (false, cs)

/-- The power of ten of a number, which may be missing, and what follows. -/
def power? : List Char → Option (Option Int × List Char)
  | [] => some (none, [])
  | c :: rest =>
    if c = 'e' || c = 'E' then
      let (negative, rest) := sign rest
      let (ds, rest) := digits rest
      if ds.isEmpty then none
      else some (some (if negative then -(natOf ds : Int) else natOf ds), rest)
    else some (none, c :: rest)

/-- The integer `n`, negated if `negative`, as a JSON number: exact within 64 bits, and a
floating-point number beyond them and for minus zero. -/
def ofInteger (negative : Bool) (n : Nat) : Option Number :=
  if negative then
    if n = 0 then some (.double (-0.0))
    else if n ≤ Nat.pow 2 63 then some (.integer (-n))
    else (Decimal.nearestFloat n 0).map fun x => .double (-x)
  else if n < Nat.pow 2 64 then some (.integer n)
  else (Decimal.nearestFloat n 0).map .double

/-- A number with a fraction or a power of ten. -/
def ofDecimal (negative : Bool) (n : Nat) (exponent : Int) : Option Number :=
  (Decimal.nearestFloat n exponent).map fun x => .double (if negative then -x else x)

/-- A number after its sign, and what follows. A leading zero stands alone before the point. -/
def scanUnsigned (negative : Bool) (cs : List Char) : Option (Option Number × List Char) :=
  let (whole, rest) := digits cs
  if whole.isEmpty || (whole.head? == some '0' && whole.length != 1) then none
  else do
    let (part, rest) ← fraction? rest
    let (power, rest) ← power? rest
    if part.isEmpty && power.isNone then some (ofInteger negative (natOf whole), rest)
    else
      some (ofDecimal negative (natOf (whole ++ part)) (power.getD 0 - part.length), rest)

/-- A number, and what follows. -/
def scanNumber : List Char → Option (Option Number × List Char)
  | '-' :: rest => scanUnsigned true rest
  | cs => scanUnsigned false cs

theorem fraction?_length {cs ds rest : List Char} (h : fraction? cs = some (ds, rest)) :
    rest.length ≤ cs.length := by
  unfold fraction? at h
  split at h
  · rename_i r
    have := digits_length r
    simp only at h
    split at h
    · cases h
    · simp only [Option.some.injEq, Prod.mk.injEq] at h
      rw [← h.2, List.length_cons]; omega
  · simp only [Option.some.injEq, Prod.mk.injEq] at h
    exact Nat.le_of_eq (congrArg List.length h.2.symm)

theorem sign_length (cs : List Char) : (sign cs).2.length ≤ cs.length := by
  unfold sign
  split <;> simp

theorem power?_length {cs rest : List Char} {p : Option Int} (h : power? cs = some (p, rest)) :
    rest.length ≤ cs.length := by
  unfold power? at h
  split at h
  · simp only [Option.some.injEq, Prod.mk.injEq] at h
    exact Nat.le_of_eq (congrArg List.length h.2.symm)
  · rename_i c r
    split at h
    · simp only at h
      split at h
      · cases h
      · simp only [Option.some.injEq, Prod.mk.injEq] at h
        have h1 := sign_length r
        have h2 := digits_length (sign r).2
        rw [← h.2, List.length_cons]; omega
    · simp only [Option.some.injEq, Prod.mk.injEq] at h
      exact Nat.le_of_eq (congrArg List.length h.2.symm)

theorem scanUnsigned_length {negative : Bool} {cs rest : List Char} {n : Option Number}
    (h : scanUnsigned negative cs = some (n, rest)) : rest.length < cs.length := by
  unfold scanUnsigned at h
  simp only [bind, Option.bind] at h
  split at h
  · cases h
  · rename_i hwhole
    have hd : (digits cs).2.length < cs.length := by
      have hlen := congrArg List.length
        (List.takeWhile_append_dropWhile (p := Char.isDigit) (l := cs))
      rw [List.length_append] at hlen
      have hpos : 0 < (digits cs).1.length := by
        cases hw : (digits cs).1 with
        | nil => simp [hw] at hwhole
        | cons _ _ => simp
      simp only [digits] at hpos ⊢
      omega
    split at h
    · cases h
    · rename_i fr hfr
      have h1 : fr.2.length ≤ _ := fraction?_length hfr
      simp only at h
      split at h
      · cases h
      · rename_i pw hpw
        have h2 : pw.2.length ≤ _ := power?_length hpw
        simp only at h
        split at h <;>
          · simp only [Option.some.injEq, Prod.mk.injEq] at h
            rw [← h.2]; omega

theorem scanNumber_length {cs rest : List Char} {n : Option Number}
    (h : scanNumber cs = some (n, rest)) : rest.length < cs.length := by
  unfold scanNumber at h
  split at h
  · have := scanUnsigned_length h
    simp only [List.length_cons]; omega
  · exact scanUnsigned_length h

end Token

/-! ### Texts -/

/-- The blanks between tokens. -/
def isSpace (c : Char) : Bool :=
  c = ' ' || c = '\n' || c = '\t' || c = '\r'

/-- The tokens of a text. -/
def tokens : List Char → List Token
  | [] => []
  | c :: rest =>
    if isSpace c then tokens rest
    else match c with
    | '[' => .openArray :: tokens rest
    | ']' => .closeArray :: tokens rest
    | '\x7b' => .openObject :: tokens rest
    | '\x7d' => .closeObject :: tokens rest
    | ',' => .comma :: tokens rest
    | ':' => .colon :: tokens rest
    | 'n' =>
      match rest with
      | 'u' :: 'l' :: 'l' :: rest => .null :: tokens rest
      | _ => [.invalid]
    | 't' =>
      match rest with
      | 'r' :: 'u' :: 'e' :: rest => .bool true :: tokens rest
      | _ => [.invalid]
    | 'f' =>
      match rest with
      | 'a' :: 'l' :: 's' :: 'e' :: rest => .bool false :: tokens rest
      | _ => [.invalid]
    | '"' =>
      match h : Token.scanString rest with
      | some (s, rest') =>
        have := Token.scanString_length h
        .string s :: tokens rest'
      | none => [.invalid]
    | c =>
      match h : Token.scanNumber (c :: rest) with
      | some (n, rest') =>
        have := Token.scanNumber_length h
        .number n :: tokens rest'
      | none => [.invalid]
termination_by cs => cs.length
decreasing_by all_goals simp_all <;> omega

end Letterhead.Json

import Mathlib.Data.List.Basic
import Mathlib.Data.Nat.Digits

/-! # The C library calls of the netstat ASP

A C string is the list of its characters before the terminating NUL. `strtok` keeps the
rest of the string it has not consumed; each call skips delimiters, returns the next
token, and consumes the one delimiter that ends it. The conversions follow glibc: `%X`
reads at most its field width of hex digits, `strtol` saturates at the range of a 64-bit
`long`, and a cast to a narrower signed type wraps. -/

namespace Maat.Netstat

/-- A C string: its characters, without the NUL. -/
abbrev CStr := List Char

/-- `isspace` in the C locale. -/
def isSpace (c : Char) : Bool :=
  c = ' ' || c = '\t' || c = '\n' || c = '\x0b' || c = '\x0c' || c = '\r'

/-- `strtok(s, delim)` (or `strtok(NULL, delim)` on what the previous call left): skip the
leading delimiters; return NULL (`none`) when nothing is left, and otherwise the token up
to the next delimiter, together with what follows that delimiter. -/
def strtok (s delim : CStr) : Option CStr × CStr :=
  match s.dropWhile (· ∈ delim) with
  | [] => (none, [])
  | c :: t => (some ((c :: t).takeWhile (· ∉ delim)), ((c :: t).dropWhile (· ∉ delim)).drop 1)

/-- The value of a digit in base 16 or below, of either case: `0`-`9` are codes 48-57,
`a`-`z` codes 97-122, `A`-`Z` codes 65-90. -/
def digitVal (c : Char) : Option Nat :=
  if 48 ≤ c.toNat ∧ c.toNat ≤ 57 then some (c.toNat - 48)
  else if 97 ≤ c.toNat ∧ c.toNat ≤ 122 then some (c.toNat - 87)
  else if 65 ≤ c.toNat ∧ c.toNat ≤ 90 then some (c.toNat - 55)
  else none

/-- Whether `c` is a digit of base `base`. -/
def isDigitOf (base : Nat) (c : Char) : Bool :=
  match digitVal c with
  | some d => d < base
  | none => false

/-- The number the digits `ds` spell in base `base`, most significant first. -/
def digitsValue (base : Nat) (ds : CStr) : Nat :=
  ds.foldl (fun acc c => acc * base + (digitVal c).getD 0) 0

/-- One `%08X` conversion: skip white space and read at most eight hex digits; `none` is
a matching failure, when there is no digit. The optional sign and `0x` prefix `%X` also
accepts are not modelled: the kernel prints neither. -/
def scanHex8 (s : CStr) : Option (UInt32 × CStr) :=
  let s := s.dropWhile isSpace
  let ds := (s.take 8).takeWhile (isDigitOf 16)
  if ds.isEmpty then none else some (UInt32.ofNat (digitsValue 16 ds), s.drop ds.length)

/-- `sscanf(s, "%08X%08X...", ...)` with `n` conversions: the words it stores, in order; it
stops at the first matching failure. -/
def scanHexWords : Nat → CStr → List UInt32
  | 0, _ => []
  | n + 1, s =>
      match scanHex8 s with
      | none => []
      | some (w, rest) => w :: scanHexWords n rest

theorem scanHexWords_length_le (n : Nat) (s : CStr) : (scanHexWords n s).length ≤ n := by
  induction n generalizing s with
  | zero => simp [scanHexWords]
  | succ n ih =>
      simp only [scanHexWords]
      split <;> simp [ih]

/-- `LONG_MAX` of a 64-bit `long`. -/
def longMax : Int := 2 ^ 63 - 1

/-- `strtol(s, NULL, base)` for base 10 or 16: skip white space, take an optional sign and,
in base 16, an optional `0x`, then the digits; the value saturates at `LONG_MIN` and
`LONG_MAX`. A `0x` with no digit after it reads as 0, as its `0` alone does in glibc. -/
def strtol (s : CStr) (base : Nat) : Int :=
  let s := s.dropWhile isSpace
  let neg := s.head? = some '-'
  let s := if s.head? = some '-' ∨ s.head? = some '+' then s.tail else s
  let s := if base = 16 ∧ (s.take 2 = ['0', 'x'] ∨ s.take 2 = ['0', 'X']) then s.drop 2 else s
  let v : Int := digitsValue base (s.takeWhile (isDigitOf base))
  if neg then max (-v) (-longMax - 1) else min v longMax

/-- A conversion to a `w`-bit signed integer type: the value modulo `2 ^ w`, in two's
complement. -/
def toSigned (w : Nat) (x : Int) : Int := Int.bmod x (2 ^ w)

/-- `atoi(s)`: `(int) strtol(s, NULL, 10)`. -/
def atoi (s : CStr) : Int := toSigned 32 (strtol s 10)

/-- `%d` and `%u`: the decimal text of an integer, with a minus sign when negative. -/
def fmtInt (x : Int) : CStr := (toString x).toList

/-- `snprintf(buf, size, ...)` of the text `out`: at most `size - 1` characters of it. -/
def snprintf (size : Nat) (out : CStr) : CStr := out.take (size - 1)

/-- A token that `strtok` returned, passed on to `call`: a NULL token is undefined behaviour,
reported as `.error call`. -/
def present : Option CStr → String → Except String CStr
  | some tok, _ => pure tok
  | none, call => throw call

theorem fmtInt_ofNat (n : Nat) : fmtInt n = Nat.toDigits 10 n := rfl

theorem fmtInt_negSucc (m : Nat) : fmtInt (Int.negSucc m) = '-' :: Nat.toDigits 10 (m + 1) := rfl

theorem toDigits_ne_nil (b n : Nat) : Nat.toDigits b n ≠ [] := by
  rw [Nat.toDigits, Nat.toDigitsCore]
  split
  · simp
  · rw [← List.length_pos, Nat.toDigitsCore_lens_eq]
    omega

theorem mem_toDigitsCore {b f n : Nat} {ds : List Char} {c : Char} (hb : 0 < b)
    (h : c ∈ Nat.toDigitsCore b f n ds) : c ∈ ds ∨ ∃ d < b, c = Nat.digitChar d := by
  induction f generalizing n ds with
  | zero => exact .inl h
  | succ f ih =>
      have step :
          c ∈ Nat.digitChar (n % b) :: ds → c ∈ ds ∨ ∃ d < b, c = Nat.digitChar d := fun h =>
        (List.mem_cons.1 h).symm.imp_right fun e => ⟨n % b, Nat.mod_lt _ hb, e⟩
      simp only [Nat.toDigitsCore] at h
      split at h
      · exact step h
      · exact (ih h).elim step .inr

/-- A decimal digit is a digit of base 10. -/
theorem isDigitOf_of_mem_toDigits {n : Nat} {c : Char} (h : c ∈ Nat.toDigits 10 n) :
    isDigitOf 10 c := by
  rcases mem_toDigitsCore (by norm_num) h with h | ⟨d, hd, rfl⟩
  · simp at h
  · interval_cases d <;> rfl

theorem digitVal_digitChar {d : Nat} (h : d < 10) : digitVal (Nat.digitChar d) = some d := by
  interval_cases d <;> rfl

/-- The first of the digits weighs `base` to the number of digits after it. -/
theorem digitsValue_cons (base : Nat) (c : Char) (ds : CStr) :
    digitsValue base (c :: ds) = (digitVal c).getD 0 * base ^ ds.length + digitsValue base ds := by
  have key : ∀ (a : Nat) (ds : CStr),
      ds.foldl (fun acc c => acc * base + (digitVal c).getD 0) a =
        a * base ^ ds.length + digitsValue base ds := by
    intro a ds
    induction ds generalizing a with
    | nil => simp [digitsValue]
    | cons x xs ih =>
        simp only [List.foldl_cons, digitsValue, List.length_cons]
        rw [ih, ih (0 * base + _)]
        ring
  rw [digitsValue, List.foldl_cons, Nat.zero_mul, Nat.zero_add]
  exact key _ ds

/-- With fuel above `n`, the digits `Nat.toDigitsCore` puts before `ds` spell `n`. -/
theorem digitsValue_toDigitsCore {f n : Nat} (ds : CStr) (h : n < f) :
    digitsValue 10 (Nat.toDigitsCore 10 f n ds) = n * 10 ^ ds.length + digitsValue 10 ds := by
  induction f generalizing n ds with
  | zero => omega
  | succ f ih =>
      have hd := digitVal_digitChar (Nat.mod_lt n (show 10 > 0 by norm_num))
      simp only [Nat.toDigitsCore]
      split_ifs with h0
      · rw [digitsValue_cons, hd, Option.getD_some, Nat.mod_eq_of_lt (by omega)]
      · rw [ih _ (by omega), digitsValue_cons, hd, Option.getD_some, List.length_cons, pow_succ]
        conv_rhs => rw [← Nat.div_add_mod n 10]
        ring

/-- The decimal text of `n` spells `n`. -/
theorem digitsValue_toDigits (n : Nat) : digitsValue 10 (Nat.toDigits 10 n) = n := by
  simpa [digitsValue] using digitsValue_toDigitsCore (f := n + 1) [] (Nat.lt_succ_self n)

theorem fmtInt_ne_nil (x : Int) : fmtInt x ≠ [] := by
  cases x with
  | ofNat n => exact toDigits_ne_nil 10 n
  | negSucc m => simp [fmtInt_negSucc]

/-- `%d` prints neither a space nor a `:`. -/
theorem fmtInt_ne_delim {x : Int} {c : Char} (h : c ∈ fmtInt x) : c ≠ ' ' ∧ c ≠ ':' := by
  have hdig : ∀ {n}, c ∈ Nat.toDigits 10 n → c ≠ ' ' ∧ c ≠ ':' := fun h => by
    have := isDigitOf_of_mem_toDigits h
    constructor <;> rintro rfl <;> exact absurd this (by decide)
  cases x with
  | ofNat n => exact hdig h
  | negSucc m =>
      rcases List.mem_cons.1 h with rfl | h
      · decide
      · exact hdig h

/-- `%d` of a value below `10 ^ k` in absolute value takes at most `k + 1` characters. -/
theorem fmtInt_length_le {x : Int} {k : Nat} (hk : 0 < k) (h : x.natAbs < 10 ^ k) :
    (fmtInt x).length ≤ k + 1 := by
  cases x with
  | ofNat n =>
      have := Nat.toDigitsCore_length 10 (by norm_num) (n + 1) n k h hk
      exact Nat.le_succ_of_le this
  | negSucc m =>
      have := Nat.toDigitsCore_length 10 (by norm_num) (m + 2) (m + 1) k h hk
      simpa [fmtInt_negSucc] using this

/-- A value below half the range keeps its value in the signed type. -/
theorem toSigned_eq_self {w x : Nat} (h : 2 * x < 2 ^ w) : toSigned w x = x := by
  rw [toSigned, Int.bmod, Int.emod_eq_of_lt (by omega) (by omega), if_pos (by omega)]

section Strtok

variable {delim : CStr}

/-- A delimiter before the string left is skipped. -/
theorem strtok_cons_of_mem {c : Char} (s : CStr) (h : c ∈ delim) :
    strtok (c :: s) delim = strtok s delim := by
  simp [strtok, List.dropWhile_cons, h]

/-- Delimiters before the string left are skipped. -/
theorem strtok_append_of_mem {pre : CStr} (s : CStr) (h : ∀ c ∈ pre, c ∈ delim) :
    strtok (pre ++ s) delim = strtok s delim := by
  have h' : ∀ c ∈ pre, decide (c ∈ delim) = true := by simpa using h
  rw [strtok, strtok, List.dropWhile_append_of_pos h']

/-- A token ended by a delimiter is returned, and the string left starts after that
delimiter. -/
theorem strtok_token {tok : CStr} {d : Char} (rest : CStr) (hne : tok ≠ [])
    (htok : ∀ c ∈ tok, c ∉ delim) (hd : d ∈ delim) :
    strtok (tok ++ d :: rest) delim = (some tok, rest) := by
  obtain ⟨c, t, rfl⟩ := List.exists_cons_of_ne_nil hne
  have ht : ∀ a ∈ c :: t, decide (a ∉ delim) = true := by simpa using htok
  have hd' : ¬decide (d ∉ delim) = true := by simpa using hd
  have hc : ¬decide (c ∈ delim) = true := by simpa using htok c (.head _)
  rw [strtok, List.cons_append, List.dropWhile_cons_of_neg (p := fun x => decide (x ∈ delim)) hc]
  dsimp only
  rw [← List.cons_append, List.takeWhile_append_of_pos ht, List.dropWhile_append_of_pos ht,
    List.takeWhile_cons_of_neg (p := fun x => decide (x ∉ delim)) hd',
    List.dropWhile_cons_of_neg (p := fun x => decide (x ∉ delim)) hd', List.append_nil]
  rfl

/-- A string with no delimiter is one token, and nothing is left after it. -/
theorem strtok_of_forall_not_mem {s : CStr} (h : ∀ c ∈ s, c ∉ delim) :
    strtok s delim = (if s = [] then none else some s, []) := by
  cases s with
  | nil => rfl
  | cons c t =>
      have h' : ∀ x ∈ c :: t, decide (x ∉ delim) = true := by simpa using h
      rw [strtok, List.dropWhile_cons_of_neg (by simpa using h c (.head _))]
      dsimp only
      rw [List.takeWhile_eq_self_iff.2 h', List.dropWhile_eq_nil_iff.2 h']
      rfl

end Strtok

/-- A digit of a base up to 16 is a hex digit. -/
theorem isDigitOf_hex {base : Nat} {c : Char} (hb : base ≤ 16) (h : isDigitOf base c) :
    isDigitOf 16 c := by
  unfold isDigitOf at *
  split at h <;> simp_all
  omega

/-- No hex digit is white space. -/
theorem isSpace_of_isDigitOf {c : Char} (h : isDigitOf 16 c) : isSpace c = false :=
  Bool.eq_false_iff.2 fun hs => by
    simp only [isSpace, Bool.or_eq_true, decide_eq_true_eq, or_assoc] at hs
    rcases hs with rfl | rfl | rfl | rfl | rfl | rfl <;> exact absurd h (by decide)

/-- A token of hex digits ended by a space or `:` is found whole. -/
theorem strtok_digits {delim tok : CStr} {d : Char} (rest : CStr) (hne : tok ≠ [])
    (htok : ∀ c ∈ tok, isDigitOf 16 c) (hdelim : ∀ c ∈ delim, c = ' ' ∨ c = ':')
    (hd : d ∈ delim) : strtok (tok ++ d :: rest) delim = (some tok, rest) :=
  strtok_token rest hne (fun c hc hm => by
    rcases hdelim c hm with rfl | rfl <;> exact absurd (htok _ hc) (by decide)) hd

/-- `strtol` of a string of digits reads their value, up to `LONG_MAX`. -/
theorem strtol_digits {base : Nat} {ds : CStr} (hb : base ≤ 16) (hne : ds ≠ [])
    (h : ∀ c ∈ ds, isDigitOf base c) :
    strtol ds base = min (digitsValue base ds : Int) longMax := by
  have hdig : ∀ c ∈ ds, isSpace c = false ∧ c ≠ '-' ∧ c ≠ '+' ∧ c ≠ 'x' ∧ c ≠ 'X' := by
    intro c hc
    have h16 := isDigitOf_hex hb (h c hc)
    refine ⟨isSpace_of_isDigitOf h16, ?_, ?_, ?_, ?_⟩ <;> rintro rfl <;>
      exact absurd h16 (by decide)
  obtain ⟨c, t, rfl⟩ := List.exists_cons_of_ne_nil hne
  obtain ⟨hs, hm, hp, -⟩ := hdig c (.head _)
  have hx : ¬(c = '0' ∧ t.take 1 = ['x'] ∨ c = '0' ∧ t.take 1 = ['X']) := by
    cases t with
    | nil => simp
    | cons x t =>
        obtain ⟨-, -, -, hx, hX⟩ := hdig x (.tail _ (.head _))
        simp [hx, hX]
  simp [strtol, List.dropWhile_cons, hs, hm, hp, hx, List.takeWhile_eq_self_iff.2 h]

/-- `atoi` of the decimal text of `n`: `n` saturated at `LONG_MAX` by `strtol`, then cut to
an `int`. -/
theorem atoi_fmtInt (n : Nat) : atoi (fmtInt n) = toSigned 32 (min (n : Int) longMax) := by
  rw [atoi, fmtInt_ofNat, strtol_digits (by norm_num) (toDigits_ne_nil 10 n)
    (fun _ => isDigitOf_of_mem_toDigits), digitsValue_toDigits]

/-- `atoi` reads back the decimal text of `n` exactly when `n` fits in an `int`. -/
theorem atoi_fmtInt_eq_iff (n : Nat) : atoi (fmtInt n) = n ↔ n < 2 ^ 31 := by
  rw [atoi_fmtInt]
  constructor
  · intro h
    have := @Int.bmod_lt (min (n : Int) longMax) (2 ^ 32) (by norm_num)
    rw [← toSigned, h] at this
    norm_num at this
    omega
  · intro h
    rw [min_eq_left (by simp only [longMax]; omega), toSigned_eq_self (by omega)]

end Maat.Netstat

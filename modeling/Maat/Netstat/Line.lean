import Maat.Netstat.InetNtop

/-! # The data lines of `/proc/net/raw6`

The kernel prints one line per raw IPv6 socket, with the format
`"%5d: %08X%08X%08X%08X:%04X %08X%08X%08X%08X:%04X %02X %08X:%08X %02X:%08lX %08X %5u %8d %lu %d %pK %u\n"`.
`Raw6Socket.line` is that line for given column values. The lemmas read each printed field
back as `strtok`, `sscanf` and `strtol` see it.

## Implementation notes

The columns after `inode` (`ref`, the socket pointer, `drops`) and the newline are kept as
text: `chunk_line_data` stops before them. -/

namespace Maat.Netstat

/-- A digit of `%X`. -/
def upperHexDigit (d : Nat) : Char := (Nat.digitChar d).toUpper

/-- `%0wX` of `n`: its last `w` hex digits in upper case, all of them when `n < 16 ^ w`. -/
def hexField : Nat → Nat → CStr
  | 0, _ => []
  | w + 1, n => hexField w (n / 16) ++ [upperHexDigit (n % 16)]

/-- The text `s` right-aligned in `w` columns, as `%5d` and `%8d` print. -/
def padLeft (w : Nat) (s : CStr) : CStr := List.replicate (w - s.length) ' ' ++ s

/-- An IPv6 address as its four `s6_addr32` words. -/
@[ext]
structure AddrWords where
  words : List UInt32
  length_eq : words.length = 4

/-- `%08X%08X%08X%08X` of the four words. -/
def AddrWords.field (a : AddrWords) : CStr := a.words.flatMap fun w => hexField 8 w.toNat

/-- The columns of one line of `/proc/net/raw6`, named as in `chunk_line_data`. -/
structure Raw6Socket where
  sl : Int
  localAddress : AddrWords
  localPort : UInt16
  remAddress : AddrWords
  remPort : UInt16
  st : UInt8
  txQueue : UInt32
  rxQueue : UInt32
  tr : UInt8
  tmWhen : UInt32
  retrnsmt : UInt32
  uid : UInt32
  timeout : Int
  inode : UInt64
  /-- The text after `inode` and its space. -/
  rest : CStr

/-- The line the kernel prints for `s`. -/
def Raw6Socket.line (s : Raw6Socket) : CStr :=
  padLeft 5 (fmtInt s.sl) ++ ':' :: ' ' :: s.localAddress.field ++
    ':' :: hexField 4 s.localPort.toNat ++ ' ' :: s.remAddress.field ++
    ':' :: hexField 4 s.remPort.toNat ++ ' ' :: hexField 2 s.st.toNat ++
    ' ' :: hexField 8 s.txQueue.toNat ++ ':' :: hexField 8 s.rxQueue.toNat ++
    ' ' :: hexField 2 s.tr.toNat ++ ':' :: hexField 8 s.tmWhen.toNat ++
    ' ' :: hexField 8 s.retrnsmt.toNat ++ ' ' :: padLeft 5 (fmtInt s.uid.toNat) ++
    ' ' :: padLeft 8 (fmtInt s.timeout) ++ ' ' :: fmtInt s.inode.toNat ++ ' ' :: s.rest

theorem digitVal_upperHexDigit {d : Nat} (h : d < 16) : digitVal (upperHexDigit d) = some d := by
  interval_cases d <;> rfl

theorem isDigitOf_upperHexDigit {d : Nat} (h : d < 16) : isDigitOf 16 (upperHexDigit d) := by
  simp [isDigitOf, digitVal_upperHexDigit h, h]

@[simp]
theorem hexField_length (w n : Nat) : (hexField w n).length = w := by
  induction w generalizing n <;> simp [hexField, *]

theorem isDigitOf_of_mem_hexField {w n : Nat} {c : Char} (h : c ∈ hexField w n) :
    isDigitOf 16 c := by
  induction w generalizing n with
  | zero => simp [hexField] at h
  | succ w ih =>
      rcases List.mem_append.1 h with h | h
      · exact ih h
      · rw [List.mem_singleton.1 h]
        exact isDigitOf_upperHexDigit (Nat.mod_lt _ (by norm_num))

theorem digitsValue_append_singleton (base : Nat) (ds : CStr) (c : Char) :
    digitsValue base (ds ++ [c]) = digitsValue base ds * base + (digitVal c).getD 0 := by
  simp [digitsValue]

/-- The digits of `%0wX` spell the value modulo `16 ^ w`. -/
theorem digitsValue_hexField (w n : Nat) : digitsValue 16 (hexField w n) = n % 16 ^ w := by
  induction w generalizing n with
  | zero => simp [hexField, digitsValue, Nat.mod_one]
  | succ w ih =>
      rw [hexField, digitsValue_append_singleton, ih,
        digitVal_upperHexDigit (Nat.mod_lt _ (by norm_num)), pow_succ', Nat.mod_mul]
      simp only [Option.getD_some]
      ring

/-- The eight digits of `%08X` spell the word. -/
theorem ofNat_digitsValue_hexField (w : UInt32) :
    UInt32.ofNat (digitsValue 16 (hexField 8 w.toNat)) = w := by
  have := w.toNat_lt_size
  simp only [UInt32.size] at this
  rw [digitsValue_hexField, Nat.mod_eq_of_lt (by norm_num; omega)]
  exact UInt32.eq_of_toBitVec_eq (BitVec.eq_of_toNat_eq (UInt32.toNat_ofNat_of_lt this))

/-- `%08X` reads back the word `%08X` printed. -/
theorem scanHex8_hexField (w : UInt32) (s : CStr) :
    scanHex8 (hexField 8 w.toNat ++ s) = some (w, s) := by
  have hd : ∀ c ∈ hexField 8 w.toNat, isDigitOf 16 c := fun _ => isDigitOf_of_mem_hexField
  have hsp : (hexField 8 w.toNat ++ s).dropWhile isSpace = hexField 8 w.toNat ++ s := by
    obtain ⟨c, t, ht⟩ := List.exists_cons_of_length_eq_add_one (hexField_length 8 w.toNat)
    rw [ht, List.cons_append, List.dropWhile_cons_of_neg]
    simp [isSpace_of_isDigitOf (hd c (ht ▸ .head _))]
  simp [scanHex8, hsp, List.take_left' (hexField_length 8 _), List.takeWhile_eq_self_iff.2 hd,
    List.drop_left' (hexField_length 8 _), ofNat_digitsValue_hexField, ← List.length_pos]

theorem scanHexWords_flatMap (ws : List UInt32) :
    scanHexWords ws.length (ws.flatMap fun w => hexField 8 w.toNat) = ws := by
  induction ws with
  | nil => rfl
  | cons w ws ih => simp [scanHexWords, scanHex8_hexField, ih]

/-- `sscanf` with four `%08X` reads back the words of an address field. -/
theorem scanHexWords_field (a : AddrWords) : scanHexWords 4 a.field = a.words := by
  rw [← a.length_eq]
  exact scanHexWords_flatMap a.words

/-- `chunk_line_data` compares an address field with this text. -/
def zeroAddrField : CStr := List.replicate 32 '0'

/-- The field is the all-zero text exactly for the unspecified address `::`. -/
theorem field_eq_zeroAddrField_iff (a : AddrWords) :
    a.field = zeroAddrField ↔ a.words = [0, 0, 0, 0] := by
  constructor
  · intro h
    rw [← scanHexWords_field, h]
    rfl
  · obtain ⟨ws, hl⟩ := a
    rintro (rfl : ws = _)
    rfl

/-- `strtol` in base 16 reads back a 16-bit port printed with `%04X`. -/
theorem strtol_hexField_port (p : UInt16) : strtol (hexField 4 p.toNat) 16 = p.toNat := by
  have := p.toNat_lt_size
  simp only [UInt16.size] at this
  rw [strtol_digits le_rfl (by simp [← List.length_pos]) fun _ => isDigitOf_of_mem_hexField,
    digitsValue_hexField, Nat.mod_eq_of_lt (by norm_num; omega)]
  simp [longMax]
  omega

theorem length_flatMap_hexField (ws : List UInt32) :
    (ws.flatMap fun w => hexField 8 w.toNat).length = 8 * ws.length := by
  induction ws with
  | nil => rfl
  | cons w ws ih => simp [ih]; ring

theorem AddrWords.isDigitOf_of_mem_field {a : AddrWords} {c : Char} (h : c ∈ a.field) :
    isDigitOf 16 c := by
  obtain ⟨w, -, hw⟩ := List.mem_flatMap.1 h
  exact isDigitOf_of_mem_hexField hw

/-- `strtok` finds an address field whole. -/
theorem strtok_field {delim : CStr} {d : Char} (a : AddrWords) (rest : CStr)
    (hdelim : ∀ c ∈ delim, c = ' ' ∨ c = ':') (hd : d ∈ delim) :
    strtok (a.field ++ d :: rest) delim = (some a.field, rest) :=
  strtok_digits rest (List.ne_nil_of_length_pos (by
      rw [AddrWords.field, length_flatMap_hexField, a.length_eq]; norm_num))
    (fun _ => a.isDigitOf_of_mem_field) hdelim hd

/-- `strtok` finds a hex field whole. -/
theorem strtok_hexField {delim : CStr} {d : Char} {w : Nat} (n : Nat) (rest : CStr) (hw : 0 < w)
    (hdelim : ∀ c ∈ delim, c = ' ' ∨ c = ':') (hd : d ∈ delim) :
    strtok (hexField w n ++ d :: rest) delim = (some (hexField w n), rest) :=
  strtok_digits rest (by simp [← List.length_pos, hw]) (fun _ => isDigitOf_of_mem_hexField)
    hdelim hd

/-- `strtok` finds the right-aligned `sl` column whole, spaces included. -/
theorem strtok_sl (x : Int) (rest : CStr) :
    strtok (padLeft 5 (fmtInt x) ++ ':' :: rest) [':'] = (some (padLeft 5 (fmtInt x)), rest) := by
  refine strtok_token rest (by simp [padLeft, fmtInt_ne_nil]) (fun c hc => ?_) (by simp)
  rcases List.mem_append.1 hc with hc | hc
  · simp [(List.eq_of_mem_replicate hc)]
  · simpa using (fmtInt_ne_delim hc).2

/-- `strtok` at a space skips the padding of `%5u` or `%8d` and finds the number. -/
theorem strtok_padLeft_fmtInt (w : Nat) (x : Int) (rest : CStr) :
    strtok (padLeft w (fmtInt x) ++ ' ' :: rest) [' '] = (some (fmtInt x), rest) := by
  rw [padLeft, List.append_assoc, strtok_append_of_mem _ fun c hc => by
    simp [List.eq_of_mem_replicate hc]]
  exact strtok_token rest (fmtInt_ne_nil x) (fun c hc => by simpa using (fmtInt_ne_delim hc).1)
    (by simp)

/-- `strtok` at a space finds a number printed with `%lu`. -/
theorem strtok_fmtInt (x : Int) (rest : CStr) :
    strtok (fmtInt x ++ ' ' :: rest) [' '] = (some (fmtInt x), rest) := by
  simpa [padLeft] using strtok_padLeft_fmtInt 0 x rest

end Maat.Netstat

import Maat.Netstat.CString

/-! # `inet_ntop` for IPv6, as glibc prints an address

`inet_ntop6` reads the sixteen bytes as eight 16-bit words, finds the longest run of zero
words (the first of equal runs, and only of two words or more), prints it as `::` and every
other word in lower-case hex, and prints the last four bytes as a dotted quad after a leading
run of six zeros, or of five zeros and `ffff`.

## Implementation notes

The address is a list of bytes read with `getD`, so that every list has a text; the bytes
`chunk_line_data` passes are the four `s6_addr32` words, stored in the host's byte order.
`inet_ntop` fails only when the text does not fit the caller's buffer: the text is at most
41 characters (`inetNtop6_length_le`), and both callers pass 46, so the model has no failure. -/

namespace Maat.Netstat

/-- The byte order of the host, in which it stores the `s6_addr32` words. -/
inductive ByteOrder
  | little
  | big
  deriving DecidableEq, Repr

/-- The four bytes of a 32-bit word in memory, lowest address first. -/
def ByteOrder.bytes : ByteOrder → UInt32 → List UInt8
  | .little, w => [w.toUInt8, (w >>> 8).toUInt8, (w >>> 16).toUInt8, (w >>> 24).toUInt8]
  | .big, w => [(w >>> 24).toUInt8, (w >>> 16).toUInt8, (w >>> 8).toUInt8, w.toUInt8]

/-- The bytes of `struct in6_addr` whose `s6_addr32` words are `ws`. -/
def in6Bytes (order : ByteOrder) (ws : List UInt32) : List UInt8 :=
  ws.flatMap order.bytes

/-- `inet_ntop4`: `"%u.%u.%u.%u"` of the first four bytes. -/
def inetNtop4 (src : List UInt8) : CStr :=
  let octet (i : Nat) := Nat.toDigits 10 (src.getD i 0).toNat
  octet 0 ++ '.' :: octet 1 ++ '.' :: octet 2 ++ '.' :: octet 3

/-- A run of zero words: its first index and its length. -/
structure ZeroRun where
  base : Nat
  len : Nat
  deriving DecidableEq, Repr

/-- `best` once the run `cur` has ended: `cur` replaces it only when strictly longer. -/
def closeRun (best : Option ZeroRun) : Option ZeroRun → Option ZeroRun
  | none => best
  | some c =>
      match best with
      | some b => if b.len < c.len then some c else some b
      | none => some c

/-- The first loop of `inet_ntop6` from word `i` on, with the best and the current run so far;
after the last word the current run is closed, and a best run of one word is dropped. -/
def bestRunFrom (best cur : Option ZeroRun) : Nat → List Nat → Option ZeroRun
  | _, [] => (closeRun best cur).filter (2 ≤ ·.len)
  | i, w :: ws =>
      if w = 0 then
        bestRunFrom best (some (match cur with
          | some c => ⟨c.base, c.len + 1⟩
          | none => ⟨i, 1⟩)) (i + 1) ws
      else bestRunFrom (closeRun best cur) none (i + 1) ws

/-- Whether word `i` lies in the best run. -/
def inRun : Option ZeroRun → Nat → Bool
  | some b, i => b.base ≤ i ∧ i < b.base + b.len
  | none, _ => false

/-- Whether the best run starts at word `i`. -/
def startsRun : Option ZeroRun → Nat → Bool
  | some b, i => b.base = i
  | none, _ => false

/-- The second loop of `inet_ntop6` from word `i` on. A word of the best run prints nothing
but the run's one `:`; any other word prints `%x`, after a `:` unless it is the first; when
`ipv4` holds, word 6 prints the IPv4 text `v4` instead and the loop stops. -/
def fmtWordsFrom (best : Option ZeroRun) (ipv4 : Bool) (v4 : CStr) : Nat → List Nat → CStr
  | _, [] => []
  | i, w :: ws =>
      if inRun best i then
        (if startsRun best i then [':'] else []) ++ fmtWordsFrom best ipv4 v4 (i + 1) ws
      else
        (if i = 0 then [] else [':']) ++
          if i = 6 ∧ ipv4 then v4 else Nat.toDigits 16 w ++ fmtWordsFrom best ipv4 v4 (i + 1) ws

/-- The eight 16-bit words of an address, in network order. -/
def in6Words (src : List UInt8) : List Nat :=
  (List.range 8).map fun i => (src.getD (2 * i) 0).toNat * 256 + (src.getD (2 * i + 1) 0).toNat

/-- Whether `inet_ntop6` prints the last four bytes as IPv4: after six zero words, or after
five and `ffff`. -/
def ipv4Tail (best : Option ZeroRun) (w5 : Nat) : Bool :=
  match best with
  | some b => b.base = 0 ∧ (b.len = 6 ∨ b.len = 5 ∧ w5 = 0xffff)
  | none => false

/-- `inet_ntop(AF_INET6, src, ...)` as glibc's `inet_ntop6` writes it, with the `:` that
closes a run reaching the last word. -/
def inetNtop6 (src : List UInt8) : CStr :=
  let words := in6Words src
  let best := bestRunFrom none none 0 words
  fmtWordsFrom best (ipv4Tail best (words.getD 5 0)) (inetNtop4 (src.drop 12)) 0 words ++
    if best.any fun b => b.base + b.len = 8 then [':'] else []

/-- `%x` of a 16-bit word has at most four digits. -/
theorem toDigits_hex_length_le {w : Nat} (h : w < 65536) : (Nat.toDigits 16 w).length ≤ 4 :=
  Nat.toDigitsCore_length 16 (by norm_num) _ w 4 h (by norm_num)

/-- `%u` of a byte has at most three digits. -/
theorem toDigits_byte_length_le (b : UInt8) : (Nat.toDigits 10 b.toNat).length ≤ 3 :=
  Nat.toDigitsCore_length 10 (by norm_num) _ _ 3
    (by have := b.toNat_lt_size; simp only [UInt8.size] at this; omega) (by norm_num)

theorem inetNtop4_length_le (src : List UInt8) : (inetNtop4 src).length ≤ 15 := by
  have := toDigits_byte_length_le (src.getD 0 0)
  have := toDigits_byte_length_le (src.getD 1 0)
  have := toDigits_byte_length_le (src.getD 2 0)
  have := toDigits_byte_length_le (src.getD 3 0)
  simp only [inetNtop4, List.length_append, List.length_cons]
  omega

theorem in6Words_length (src : List UInt8) : (in6Words src).length = 8 := by
  simp [in6Words]

/-- Every word of an address fits in 16 bits. -/
theorem lt_of_mem_in6Words {src : List UInt8} {w : Nat} (h : w ∈ in6Words src) : w < 65536 := by
  obtain ⟨i, -, rfl⟩ := List.mem_map.1 h
  have := (src.getD (2 * i) 0).toNat_lt_size
  have := (src.getD (2 * i + 1) 0).toNat_lt_size
  simp only [UInt8.size] at *
  omega

/-- Without the IPv4 tail, each word prints at most five characters: a `:` and four digits. -/
theorem fmtWordsFrom_length_le (best : Option ZeroRun) (v4 : CStr) :
    ∀ (i : Nat) (ws : List Nat), (∀ w ∈ ws, w < 65536) →
      (fmtWordsFrom best false v4 i ws).length ≤ 5 * ws.length
  | _, [] => fun _ => by simp [fmtWordsFrom]
  | i, w :: ws => fun h => by
      have ih := fmtWordsFrom_length_le best v4 (i + 1) ws fun w hw => h w (.tail _ hw)
      have hw := toDigits_hex_length_le (h w (.head _))
      simp only [fmtWordsFrom, Bool.false_eq_true, and_false, if_false]
      split <;> split <;>
        simp only [List.length_append, List.length_cons, List.length_nil] <;> omega

/-- With the IPv4 tail, the run prints `::`, word 5 at most `:ffff`, and word 6 the tail. -/
theorem fmtWordsFrom_ipv4_length_le {b : ZeroRun} {w5 : Nat} (hb : ipv4Tail (some b) w5)
    (v4 : CStr) (ws : List Nat) (hlen : ws.length = 8) (hws : ∀ w ∈ ws, w < 65536) :
    (fmtWordsFrom (some b) true v4 0 ws).length ≤ 7 + v4.length := by
  obtain ⟨base, len⟩ := b
  match ws, hlen with
  | [w0, w1, w2, w3, w4, w5', w6, w7], _ =>
      have := toDigits_hex_length_le (hws w5' (by simp))
      simp only [ipv4Tail, decide_eq_true_eq] at hb
      obtain ⟨rfl, rfl | ⟨rfl, -⟩⟩ := hb <;>
        simp [fmtWordsFrom, inRun, startsRun] <;> omega

/-- What `inet_ntop6` prints takes at most 41 characters. -/
theorem inetNtop6_length_le (src : List UInt8) : (inetNtop6 src).length ≤ 41 := by
  have hws : ∀ w ∈ in6Words src, w < 65536 := fun _ => lt_of_mem_in6Words
  have h4 := inetNtop4_length_le (src.drop 12)
  simp only [inetNtop6, List.length_append]
  generalize bestRunFrom none none 0 (in6Words src) = best
  have htrail : (if best.any fun b => b.base + b.len = 8 then [':'] else []).length ≤ 1 := by
    split <;> simp
  cases hv : ipv4Tail best ((in6Words src).getD 5 0)
  · have := fmtWordsFrom_length_le best (inetNtop4 (src.drop 12)) 0 _ hws
    rw [in6Words_length] at this
    omega
  · cases best with
    | none => simp [ipv4Tail] at hv
    | some b =>
        have := fmtWordsFrom_ipv4_length_le hv (inetNtop4 (src.drop 12)) _ (in6Words_length src) hws
        omega

example : inetNtop6 (in6Bytes .little [0, 0, 0xFFFF0000, 0x0100007F]) =
    "::ffff:127.0.0.1".toList := by decide

/-- `inet_ntop` prints the unspecified address as `::`. -/
theorem inetNtop6_unspecified (order : ByteOrder) :
    inetNtop6 (in6Bytes order [0, 0, 0, 0]) = "::".toList := by
  cases order <;> decide

end Maat.Netstat

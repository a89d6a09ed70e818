import Maat.Netstat.Line

/-! # `chunk_line_data` of the netstat raw6 ASP

`chunk_line_data` splits one line of `/proc/net/raw6` with `strtok` and fills a
`netstat_raw6_line`: each address with its port as `[addr]:port`, the state, the uid and the
inode. On every line the kernel prints it finds each column where the kernel put it
(`chunkLineData_line`), but it prints the all-zero address as `::1` and casts the port to
`short`.

## Implementation notes

`ip` comes from `malloc` and is never cleared, so the words it holds before the first
`sscanf` are a parameter; its allocation is assumed to succeed. A NULL token passed on to a
call is undefined behaviour, which the model reports as the name of that call. -/

namespace Maat.Netstat

/-- `netstat_raw6_line`, the fields `chunk_line_data` writes. Its declaration is not in src/:
`uid` and `inode` are taken to hold the `int` that `atoi` returns, so a column at or past
2^31 arrives wrapped. -/
structure Raw6Line where
  localAddr : CStr
  remAddr : CStr
  state : CStr
  uid : Int
  inode : Int
  deriving DecidableEq, Repr

/-- `sscanf(tok, "%08X%08X%08X%08X", &ip->s6_addr32[0], ...)`: the words read replace the
first words of `ip`. -/
def AddrWords.scanInto (ip : AddrWords) (tok : CStr) : AddrWords :=
  ⟨scanHexWords 4 tok ++ ip.words.drop (scanHexWords 4 tok).length, by
    have := scanHexWords_length_le 4 tok
    simp [ip.length_eq]
    omega⟩

/-- Lines 75-80: the text of an address token, `::1` for the all-zero token and otherwise
what `inet_ntop` prints of `ip` once `sscanf` has read the token into it; with `ip` after. -/
def addrText (order : ByteOrder) (ip : AddrWords) (tok : CStr) : CStr × AddrWords :=
  if tok = zeroAddrField then ("::1".toList, ip)
  else (inetNtop6 (in6Bytes order (ip.scanInto tok).words), ip.scanInto tok)

/-- Lines 74-83, and 85-94 for the remote address, which pass 46 for `INET6_ADDRSTRLEN`: the
address token up to a space or `:`, the port token up to a space, and the `[addr]:port` text
`snprintf` writes with the port cast to `short`. -/
def parseEndpoint (order : ByteOrder) (ip : AddrWords) (s : CStr) :
    Except String (CStr × AddrWords × CStr) := do
  let (tok, s) := strtok s [' ', ':']
  let (addr, ip) := addrText order ip (← present tok "strcmp")
  let (tok, s) := strtok s [' ']
  let port := strtol (← present tok "strtol") 16
  pure (snprintf 52 ('[' :: addr ++ ']' :: ':' :: fmtInt (toSigned 16 port)), ip, s)

/-- `chunk_line_data(raw_line)`: `.ok none` is the NULL returned when `malloc` fails
(`alloc` false), `.ok (some r)` the record, and `.error call` a NULL token passed to `call`.
After the state come `tx_queue`, `rx_queue`, `tr`, `tm->when` and `retrnsmt`, which are
skipped, then `uid`, `timeout`, skipped, and `inode`. -/
def chunkLineData (alloc : Bool) (order : ByteOrder) (ip : AddrWords) (line : CStr) :
    Except String (Option Raw6Line) :=
  if alloc then do
    let (_, s) := strtok line [':']
    let (localAddr, ip, s) ← parseEndpoint order ip s
    let (remAddr, _, s) ← parseEndpoint order ip s
    let (tok, s) := strtok s [' ']
    let state := (← present tok "strncpy").take 16
    let (_, s) := strtok s [' ', ':']
    let (_, s) := strtok s [' ']
    let (_, s) := strtok s [' ', ':']
    let (_, s) := strtok s [' ']
    let (_, s) := strtok s [' ']
    let (tok, s) := strtok s [' ']
    let uid := atoi (← present tok "atoi")
    let (_, s) := strtok s [' ']
    let (tok, _) := strtok s [' ']
    let inode := atoi (← present tok "atoi")
    pure (some ⟨localAddr, remAddr, state, uid, inode⟩)
  else pure none

/-! ## What `chunk_line_data` reads from a line the kernel printed -/

theorem scanInto_field (ip a : AddrWords) : ip.scanInto a.field = a := by
  ext1
  simp [AddrWords.scanInto, scanHexWords_field, a.length_eq, ip.length_eq]

/-- What `chunk_line_data` prints for an address the kernel printed: `::1` for `::`, and
otherwise what `inet_ntop` prints. -/
def codeAddr (order : ByteOrder) (a : AddrWords) : CStr :=
  if a.words = [0, 0, 0, 0] then "::1".toList else inetNtop6 (in6Bytes order a.words)

theorem addrText_field (order : ByteOrder) (ip a : AddrWords) :
    addrText order ip a.field = (codeAddr order a, if a.words = [0, 0, 0, 0] then ip else a) := by
  by_cases h : a.words = [0, 0, 0, 0]
  · rw [addrText, if_pos ((field_eq_zeroAddrField_iff a).2 h), codeAddr, if_pos h, if_pos h]
  · rw [addrText, if_neg (mt (field_eq_zeroAddrField_iff a).1 h), codeAddr, if_neg h, if_neg h,
      scanInto_field]

/-- The `[addr]:port` text `chunk_line_data` writes for an address and a port the kernel
printed. -/
def codeEndpoint (order : ByteOrder) (a : AddrWords) (port : UInt16) : CStr :=
  '[' :: codeAddr order a ++ ']' :: ':' :: fmtInt (toSigned 16 port.toNat)

/-- The record `chunk_line_data` returns for the line of `s`. -/
def Raw6Socket.record (order : ByteOrder) (s : Raw6Socket) : Raw6Line :=
  ⟨codeEndpoint order s.localAddress s.localPort, codeEndpoint order s.remAddress s.remPort,
    hexField 2 s.st.toNat, atoi (fmtInt s.uid.toNat), atoi (fmtInt s.inode.toNat)⟩

/-- The text fits the 52 bytes `snprintf` may write, so none of it is cut. -/
theorem snprintf_codeEndpoint (order : ByteOrder) (a : AddrWords) (port : UInt16) :
    snprintf 52 (codeEndpoint order a port) = codeEndpoint order a port := by
  have haddr : (codeAddr order a).length ≤ 41 := by
    unfold codeAddr
    split
    · simp
    · exact inetNtop6_length_le _
  have hport : (fmtInt (toSigned 16 port.toNat)).length ≤ 6 := by
    have := @Int.le_bmod port.toNat 65536 (by norm_num)
    have := @Int.bmod_lt port.toNat 65536 (by norm_num)
    exact fmtInt_length_le (by norm_num) (by simp only [toSigned, Nat.reducePow]; omega)
  apply List.take_of_length_le
  rw [codeEndpoint, List.length_append, List.length_cons, List.length_cons, List.length_cons]
  omega

/-- A space before the address token is skipped. -/
theorem parseEndpoint_cons_space (order : ByteOrder) (ip : AddrWords) (s : CStr) :
    parseEndpoint order ip (' ' :: s) = parseEndpoint order ip s := by
  simp [parseEndpoint, strtok_cons_of_mem]

/-- On an address and a port the kernel printed, `parseEndpoint` writes their text. -/
theorem parseEndpoint_field (order : ByteOrder) (ip a : AddrWords) (p : UInt16) (rest : CStr) :
    parseEndpoint order ip (a.field ++ ':' :: (hexField 4 p.toNat ++ ' ' :: rest)) =
      pure (codeEndpoint order a p, if a.words = [0, 0, 0, 0] then ip else a, rest) := by
  simp (disch := decide) only [parseEndpoint, strtok_field, strtok_hexField, present, pure_bind,
    addrText_field, strtol_hexField_port]
  exact congrArg (fun t => pure (t, _, rest)) (snprintf_codeEndpoint order a p)

/-- On every line the kernel prints, `chunk_line_data` finds every column where the kernel put
it: the addresses and ports give `codeEndpoint`, the state its two digits, and the uid and the
inode are `atoi` of their decimal text. -/
theorem chunkLineData_line (order : ByteOrder) (ip : AddrWords) (s : Raw6Socket) :
    chunkLineData true order ip s.line = pure (some (s.record order)) := by
  rw [chunkLineData, if_pos rfl]
  simp (disch := decide) only [Raw6Socket.line, List.append_assoc, List.cons_append, strtok_sl,
    parseEndpoint_cons_space, parseEndpoint_field, strtok_hexField, strtok_padLeft_fmtInt,
    strtok_fmtInt, present, pure_bind]
  rw [List.take_of_length_le (by rw [hexField_length]; norm_num)]
  rfl

/-! ## The `[T]:P` text -/

/-- The `[T]:P` text of an address and a port: `T` what `inet_ntop` prints of the address,
`P` the port in decimal. -/
def endpointText (order : ByteOrder) (a : AddrWords) (port : UInt16) : CStr :=
  '[' :: inetNtop6 (in6Bytes order a.words) ++ ']' :: ':' :: fmtInt port.toNat

/-- An ICMPv6 raw socket bound to no address. -/
def unboundIcmp6Socket : Raw6Socket where
  sl := 0
  localAddress := ⟨[0, 0, 0, 0], rfl⟩
  localPort := 58
  remAddress := ⟨[0, 0, 0, 0], rfl⟩
  remPort := 0
  st := 7
  txQueue := 0
  rxQueue := 0
  tr := 0
  tmWhen := 0
  retrnsmt := 0
  uid := 0
  timeout := 0
  inode := 12345
  rest := "2 0000000000000000 0\n".toList

/-- On the line of a socket bound to `::`, `chunk_line_data` writes the local address as
`[::1]:58` where `[::]:58` is its text. -/
theorem unspecified_address_prints_as_loopback (order : ByteOrder) (ip : AddrWords) :
    unboundIcmp6Socket.line = ("    0: 00000000000000000000000000000000:003A " ++
      "00000000000000000000000000000000:0000 07 00000000:00000000 00:00000000 00000000     0 " ++
      "       0 12345 2 0000000000000000 0\n").toList ∧
    chunkLineData true order ip unboundIcmp6Socket.line =
      pure (some ⟨"[::1]:58".toList, "[::1]:0".toList, "07".toList, 0, 12345⟩) ∧
    endpointText order unboundIcmp6Socket.localAddress unboundIcmp6Socket.localPort =
      "[::]:58".toList := by
  refine ⟨rfl, by rw [chunkLineData_line]; rfl, ?_⟩
  rw [endpointText, unboundIcmp6Socket, inetNtop6_unspecified]
  rfl

/-! ## The uid and the inode -/

/-- On every line the kernel prints, the record holds the uid and the inode of the line
exactly when they fit in an `int`: `atoi` cuts larger ones. -/
theorem chunkLineData_uid_inode (order : ByteOrder) (ip : AddrWords) (s : Raw6Socket) :
    ∃ r, chunkLineData true order ip s.line = pure (some r) ∧
      (r.uid = s.uid.toNat ↔ s.uid.toNat < 2 ^ 31) ∧
      (r.inode = s.inode.toNat ↔ s.inode.toNat < 2 ^ 31) :=
  ⟨_, chunkLineData_line order ip s, atoi_fmtInt_eq_iff _, atoi_fmtInt_eq_iff _⟩

/-- The socket of a long-running host whose inode numbers have reached `2 ^ 32`. -/
def highInodeSocket : Raw6Socket := { unboundIcmp6Socket with inode := 4294967296 }

/-- The inode `4294967296` is read as 0. -/
theorem inode_past_int_range_reads_as_zero (order : ByteOrder) (ip : AddrWords) :
    highInodeSocket.line = ("    0: 00000000000000000000000000000000:003A " ++
      "00000000000000000000000000000000:0000 07 00000000:00000000 00:00000000 00000000     0 " ++
      "       0 4294967296 2 0000000000000000 0\n").toList ∧
    ∃ r, chunkLineData true order ip highInodeSocket.line = pure (some r) ∧ r.inode = 0 :=
  ⟨rfl, _, chunkLineData_line order ip _, rfl⟩

/-! ## Lines the kernel does not print -/

/-- On a line with no `:`, the first `strtok` takes the whole line as `sl`, and the address
token is NULL when it reaches `strcmp`. -/
theorem chunkLineData_of_colon_not_mem (order : ByteOrder) (ip : AddrWords) {line : CStr}
    (h : ':' ∉ line) : chunkLineData true order ip line = throw "strcmp" := by
  rw [chunkLineData, if_pos rfl, strtok_of_forall_not_mem fun c hc hm => h (by
    rw [List.mem_singleton.1 hm] at hc; exact hc)]
  rfl

end Maat.Netstat

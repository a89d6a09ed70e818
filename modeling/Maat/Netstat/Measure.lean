import Maat.Netstat.Raw6
import Maat.Scenario

/-! # `asp_measure` of the netstat raw6 ASP

`asp_measure` checks its arguments, records the address of `/proc/net/raw6`, skips the
file's header line, and prepends what `chunk_line_data` returns for each further line to the
list it attaches to the node. On a file of lines the kernel printed, the list holds one
entry per line, the last line's first: NULL where the record's `malloc` failed, the line's
record otherwise (`aspMeasure_kernel_file`). A line with no `:` after them, an empty one
included, makes `chunk_line_data` pass a NULL token to `strcmp` once its record is allocated
(`aspMeasure_of_colon_not_mem`).

## Implementation notes

The file is the list of lines `getline` returns. `alloc_data` and
`measurement_node_add_rawdata` are assumed to succeed, as the code does not check them. -/

namespace Maat.Netstat

/-- What the calls of `asp_measure` return, apart from `chunk_line_data`. -/
structure MeasureEnv where
  /-- `argc >= 3`, a valid node id, and `map_measurement_graph` succeeding. -/
  argsOk : Bool
  /-- `alloc_address`, `stat`, the size check, `strdup` and `new_measurement_variable`. -/
  addressOk : Bool
  /-- `fopen("/proc/net/raw6", "r")`. -/
  fopenOk : Bool
  /-- Whether the record's `malloc` succeeds in the `n`-th call of `chunk_line_data`. -/
  alloc : Nat → Bool
  /-- The words `malloc` leaves in `ip` in the `n`-th call. -/
  ip : Nat → AddrWords
  order : ByteOrder

/-- Lines 189-197 from the `n`-th data line on: the result for each line is prepended to
`acc`, a NULL record included. -/
def readLines (env : MeasureEnv) : Nat → List CStr → List (Option Raw6Line) →
    Except String (List (Option Raw6Line))
  | _, [], acc => pure acc
  | n, line :: rest, acc => do
      let nl ← chunkLineData (env.alloc n) env.order (env.ip n) line
      readLines env (n + 1) rest (nl :: acc)

/-- `asp_measure(argc, argv)` on the lines `getline` reads from `/proc/net/raw6`: the value
it returns, and the list it attaches to the node, `none` when it returns before the loop. -/
def aspMeasure (env : MeasureEnv) (file : List CStr) :
    Except String (Int × Option (List (Option Raw6Line))) :=
  if !env.argsOk then pure (-einval, none)
  else if !env.addressOk || !env.fopenOk then pure (-1, none)
  else
    match file with
    | [] => pure (-1, none)
    | _ :: lines => do
        let data ← readLines env 0 lines []
        pure (0, some data)

/-- The loop over lines the kernel printed prepends, for the `i`-th call, the line's record,
or NULL when the record's `malloc` failed. -/
theorem readLines_kernel_lines (env : MeasureEnv) (socks : List Raw6Socket) (n : Nat)
    (acc : List (Option Raw6Line)) :
    readLines env n (socks.map Raw6Socket.line) acc =
      pure (((socks.enumFrom n).map fun p =>
        if env.alloc p.1 then some (p.2.record env.order) else none).reverse ++ acc) := by
  induction socks generalizing n acc with
  | nil => rfl
  | cons s socks ih =>
      rw [List.map_cons, readLines]
      cases h : env.alloc n
      · simp [chunkLineData, h, ih]
      · simp [h, chunkLineData_line, ih]

/-- With every record allocated, the loop prepends the records of all the lines. -/
theorem readLines_lines (env : MeasureEnv) (socks : List Raw6Socket) (n : Nat)
    (acc : List (Option Raw6Line)) (halloc : ∀ i < socks.length, env.alloc (n + i)) :
    readLines env n (socks.map Raw6Socket.line) acc =
      pure ((socks.map fun s => some (s.record env.order)).reverse ++ acc) := by
  rw [readLines_kernel_lines]
  conv_rhs => rw [← List.enumFrom_map_snd n socks, List.map_map]
  congr 3
  refine List.map_congr_left fun p hp => ?_
  obtain ⟨h1, h2, -⟩ := List.mem_enumFrom hp
  simp [show env.alloc p.1 by simpa [Nat.add_sub_cancel' h1] using halloc (p.1 - n) (by omega)]

/-- The loop over two runs of lines is the loop over the first, then over the second from
where the first left off. -/
theorem readLines_append (env : MeasureEnv) (n : Nat) (xs ys : List CStr)
    (acc : List (Option Raw6Line)) :
    readLines env n (xs ++ ys) acc =
      readLines env n xs acc >>= readLines env (n + xs.length) ys := by
  induction xs generalizing n acc with
  | nil => simp [readLines]
  | cons x xs ih =>
      rw [List.cons_append, readLines, readLines, bind_assoc]
      simp only [ih, List.length_cons, Nat.add_assoc, Nat.add_comm 1 xs.length]

/-- On a header and lines the kernel printed, whichever `malloc`s fail, `asp_measure`
returns 0 and attaches one entry per line, the last line's first: NULL where the record's
`malloc` failed, the line's record otherwise. -/
theorem aspMeasure_kernel_file (env : MeasureEnv) (header : CStr) (socks : List Raw6Socket)
    (hok : env.argsOk ∧ env.addressOk ∧ env.fopenOk) :
    aspMeasure env (header :: socks.map Raw6Socket.line) =
      pure (0, some ((socks.enumFrom 0).map fun p =>
        if env.alloc p.1 then some (p.2.record env.order) else none).reverse) := by
  obtain ⟨h1, h2, h3⟩ := hok
  simp only [aspMeasure, h1, h2, h3, Bool.not_true, Bool.or_self, Bool.false_eq_true, if_false,
    readLines_kernel_lines, List.append_nil, pure_bind]

/-- Two lines of an unbound ICMPv6 socket, the first record's `malloc` failing: the list
holds the second line's record, then NULL. -/
theorem failed_first_malloc_leaves_null :
    aspMeasure ⟨true, true, true, fun i => i != 0, fun _ => ⟨[0, 0, 0, 0], rfl⟩, .little⟩
        ([] :: [unboundIcmp6Socket, unboundIcmp6Socket].map Raw6Socket.line) =
      pure (0, some [some (unboundIcmp6Socket.record .little), none]) :=
  aspMeasure_kernel_file _ [] [unboundIcmp6Socket, unboundIcmp6Socket] ⟨rfl, rfl, rfl⟩

/-- After lines the kernel printed, a line with no `:` makes `chunk_line_data` pass NULL to
`strcmp`, whatever follows it. -/
theorem aspMeasure_of_colon_not_mem (env : MeasureEnv) (header : CStr)
    (socks : List Raw6Socket) (line : CStr) (rest : List CStr)
    (hok : env.argsOk ∧ env.addressOk ∧ env.fopenOk)
    (halloc : ∀ i ≤ socks.length, env.alloc i) (hline : ':' ∉ line) :
    aspMeasure env (header :: (socks.map Raw6Socket.line ++ line :: rest)) = throw "strcmp" := by
  obtain ⟨h1, h2, h3⟩ := hok
  simp only [aspMeasure, h1, h2, h3, Bool.not_true, Bool.or_self, Bool.false_eq_true, if_false,
    readLines_append, readLines_lines env socks 0 [] (fun i hi => by simpa using halloc i hi.le),
    pure_bind, readLines, List.length_map, Nat.zero_add, halloc _ le_rfl,
    chunkLineData_of_colon_not_mem _ _ hline]
  rfl

/-- An empty line read after the header: `chunk_line_data` passes NULL to `strcmp`. -/
theorem empty_line_passes_null_to_strcmp (env : MeasureEnv) (header : CStr) (rest : List CStr)
    (hok : env.argsOk ∧ env.addressOk ∧ env.fopenOk) (halloc : env.alloc 0) :
    chunkLineData true env.order (env.ip 0) ['\n'] = throw "strcmp" ∧
      aspMeasure env (header :: ['\n'] :: rest) = throw "strcmp" :=
  ⟨chunkLineData_of_colon_not_mem _ _ (by decide),
    aspMeasure_of_colon_not_mem env header [] ['\n'] rest hok (by simpa using halloc) (by decide)⟩

/-- The header of `/proc/net/raw6` followed by an empty line. -/
theorem empty_line_after_header :
    aspMeasure ⟨true, true, true, fun _ => true, fun _ => ⟨[0, 0, 0, 0], rfl⟩, .little⟩
      [("  sl  local_address                         remote_address                        " ++
        "st tx_queue rx_queue tr tm->when retrnsmt   uid  timeout inode ref pointer drops\n").toList,
        ['\n']] = throw "strcmp" :=
  (empty_line_passes_null_to_strcmp _ _ [] ⟨rfl, rfl, rfl⟩ rfl).2

end Maat.Netstat

import Maat.Scenario
import Mathlib.Data.PNat.Defs

/-! # Process trees of the fork chain

`fork_and_buffer_async_asp` returns twice: in the calling process with the result of the
spawn, and in the newly forked child with 0. Both then run the same code, so one call of
`execute_sign_send_pipeline` leaves a tree of processes behind. A `spawned` node of `Run`
splits into the forked child and the caller; each leaf ends one process, by a return into
`apb_execute` or by `exit`.

## Implementation notes

The caller blocks on its forked child before the call returns to it, so the caller's
branch is computed from the child's exit code. Pipe descriptors are not modelled. -/

namespace Maat.Pipeline

/-- The stages `execute_sign_send_pipeline` spawns with `fork_and_buffer_async_asp`. -/
inductive Stage
  | serialize
  | compress
  | encrypt
  | createCon
  deriving DecidableEq, Repr

/-- What spawning one stage does, seen from the calling process. -/
inductive Spawn
  /-- The pipe or the fork failed: no child exists. -/
  | failed
  /-- The stage's ASP and a forked child were started; `aspOk` says whether the ASP
  succeeded, `pid` is the child's process id. -/
  | launched (aspOk : Bool) (pid : ℕ+)
  deriving DecidableEq, Repr

/-- Whether a spawn started its child and its ASP succeeded. -/
def Spawn.ok : Spawn → Bool
  | .failed => false
  | .launched aspOk _ => aspOk

/-- The status a parent reads from a child that called `exit(code)`: its low eight bits. -/
def exitStatus (code : Int) : Int := code % 256

/-- Modelled from the spec: `fork_and_buffer_async_asp` as its caller sees it. It returns
-2 when nothing could be spawned, -1 when the stage's ASP or the forked child failed, and
the child's pid when both succeeded; only the forked child sees 0. -/
def forkAndBufferAsyncAsp : Spawn → Int → Int
  | .failed, _ => -2
  | .launched aspOk pid, childCode =>
      if aspOk = true ∧ exitStatus childCode = 0 then (pid : Int) else -1

theorem forkAndBufferAsyncAsp_ne_zero (s : Spawn) (code : Int) :
    forkAndBufferAsyncAsp s code ≠ 0 := by
  cases s with
  | failed => simp [forkAndBufferAsyncAsp]
  | launched aspOk pid =>
      have := pid.pos
      simp only [forkAndBufferAsyncAsp]
      split_ifs <;> omega

/-- A stack array `char *argv[declared]` of argument pointers, with the stores made to it
in order. An index at or past `declared` lies outside the array. -/
structure ArgArray where
  declared : Nat
  stores : List (Nat × String)
  deriving DecidableEq, Repr

namespace ArgArray

/-- An array nothing has been stored into. -/
def empty (declared : Nat) : ArgArray := ⟨declared, []⟩

/-- `argv[i] = s`. -/
def store (a : ArgArray) (i : Nat) (s : String) : ArgArray :=
  { a with stores := a.stores ++ [(i, s)] }

/-- Every store into the array, and every entry a callee reads, lies within its
declared length. -/
def InBounds (a : ArgArray) (argc : Nat) : Prop :=
  (∀ p ∈ a.stores, p.1 < a.declared) ∧ argc ≤ a.declared

instance (a : ArgArray) (argc : Nat) : Decidable (a.InBounds argc) :=
  inferInstanceAs (Decidable ((∀ p ∈ a.stores, p.1 < a.declared) ∧ argc ≤ a.declared))

@[simp] theorem store_declared (a : ArgArray) (i : Nat) (s : String) :
    (a.store i s).declared = a.declared := rfl

@[simp] theorem store_stores (a : ArgArray) (i : Nat) (s : String) :
    (a.store i s).stores = a.stores ++ [(i, s)] := rfl

end ArgArray

/-- One call of `fork_and_buffer_async_asp(stage, argc, argv, ...)`. -/
structure Call where
  stage : Stage
  argc : Nat
  argv : ArgArray
  deriving DecidableEq, Repr

/-- The processes one run leaves behind, as the tree of the calls they made. -/
inductive Run
  /-- The process returns `v` from `execute_sign_send_pipeline` into `apb_execute`. -/
  | ret (v : Int)
  /-- The process calls `exit(code)`. -/
  | exit (code : Int)
  /-- The call could not spawn; the caller goes on with -2. -/
  | spawnFailed (call : Call) (caller : Run)
  /-- The call forked `child`; the caller goes on with what the call returned to it. -/
  | spawned (call : Call) (child caller : Run)
  /-- The process ran the send ASP, which returned `status`. -/
  | send (status : Int) (next : Run)
  deriving Repr

/-- How one process ends. -/
inductive Ending
  | returns (v : Int)
  | exits (code : Int)
  deriving DecidableEq, Repr

/-- The code a process hands its parent. A process that returned `v` would leave through
`apb_execute`, which returns `v` as the APB's result. -/
def Ending.code : Ending → Int
  | .returns v => v
  | .exits c => c

@[simp] theorem Ending.code_exits (c : Int) : (Ending.exits c).code = c := rfl

@[simp] theorem Ending.code_returns (v : Int) : (Ending.returns v).code = v := rfl

/-- Whether the process ended in `exit`. -/
def Ending.isExit : Ending → Bool
  | .returns _ => false
  | .exits _ => true

namespace Run

/-- How the process at the root of the tree ends. -/
def ending : Run → Ending
  | ret v => .returns v
  | exit c => .exits c
  | spawnFailed _ k => k.ending
  | spawned _ _ k => k.ending
  | send _ k => k.ending

/-- How each process forked anywhere in the tree ends. -/
def forkedEndings : Run → List Ending
  | ret _ | exit _ => []
  | spawnFailed _ k => k.forkedEndings
  | spawned _ child k => child.ending :: child.forkedEndings ++ k.forkedEndings
  | send _ k => k.forkedEndings

/-- For each run of the send ASP, the stages whose spawns forked the process that ran it,
from the root down. -/
def sendPaths : Run → List (List Stage)
  | ret _ | exit _ => []
  | spawnFailed _ k => k.sendPaths
  | spawned c child k => child.sendPaths.map (c.stage :: ·) ++ k.sendPaths
  | send _ k => [] :: k.sendPaths

/-- For each call of `fork_and_buffer_async_asp` in the tree, the calls made on the way to
it by the calling process and its ancestors, ending with the call itself. -/
def callPaths : Run → List (List Call)
  | ret _ | exit _ => []
  | spawnFailed c k => [c] :: k.callPaths.map (c :: ·)
  | spawned c child k => [c] :: (child.callPaths ++ k.callPaths).map (c :: ·)
  | send _ k => k.callPaths

/-- Every process of the tree, the root included, ends in `exit`. -/
def AllExit (r : Run) : Prop := r.ending.isExit ∧ ∀ e ∈ r.forkedEndings, e.isExit

end Run

/-- `ret_val = fork_and_buffer_async_asp(...)` followed by `k ret_val`. When the spawn
succeeds the child runs `k 0`, and the caller runs `k` on the value the call builds from
the child's exit code. -/
def fork (spawn : Spawn) (c : Call) (k : Int → Run) : Run :=
  match spawn with
  | .failed => .spawnFailed c (k (-2))
  | .launched aspOk pid =>
      .spawned c (k 0) (k (forkAndBufferAsyncAsp (.launched aspOk pid) (k 0).ending.code))

/-- The ladder after each spawn inside the chain: a spawn failure (-2) or a stage failure
(-1) exits -1, the caller of a successful spawn exits 0 so that its own parent goes on, and
the forked child (`ret_val == 0`) continues with `next`. -/
def afterSpawn (retVal : Int) (next : Run) : Run :=
  if retVal = -2 then .exit (-1)
  else if retVal = -1 then .exit (-1)
  else if retVal > 0 then .exit 0
  else next

@[simp] theorem afterSpawn_zero (next : Run) : afterSpawn 0 next = next := rfl

/-- The caller's side of a spawn inside the chain. -/
theorem afterSpawn_forkAndBufferAsyncAsp (s : Spawn) (code : Int) (next : Run) :
    afterSpawn (forkAndBufferAsyncAsp s code) next =
      .exit (if s.ok = true ∧ exitStatus code = 0 then 0 else -1) := by
  cases s with
  | failed => rfl
  | launched aspOk pid =>
      have := pid.pos
      simp only [forkAndBufferAsyncAsp, Spawn.ok]
      split_ifs with h
      · simp [afterSpawn, show ¬((pid : Int) = -2) by omega, show ¬((pid : Int) = -1) by omega, this]
      · rfl

section Link

variable (s : Spawn) (c : Call) (next : Run)

/-- One link of the chain: its process exits 0 exactly when the spawn succeeded and the
child it forked exited with status 0. -/
theorem fork_afterSpawn_ending :
    (fork s c (afterSpawn · next)).ending =
      .exits (if s.ok = true ∧ exitStatus next.ending.code = 0 then 0 else -1) := by
  cases s with
  | failed => rfl
  | launched aspOk pid =>
      simp only [fork, afterSpawn_zero, afterSpawn_forkAndBufferAsyncAsp]
      rfl

theorem fork_afterSpawn_allExit (h : next.AllExit) : (fork s c (afterSpawn · next)).AllExit := by
  cases s with
  | failed => exact ⟨rfl, by simp [fork, afterSpawn, Run.forkedEndings]⟩
  | launched aspOk pid =>
      simp only [Run.AllExit, fork, afterSpawn_zero, afterSpawn_forkAndBufferAsyncAsp] at h ⊢
      refine ⟨rfl, ?_⟩
      simpa [Run.forkedEndings, Run.ending] using h

theorem fork_afterSpawn_sendPaths :
    (fork s c (afterSpawn · next)).sendPaths =
      match s with
      | .failed => []
      | .launched _ _ => next.sendPaths.map (c.stage :: ·) := by
  cases s with
  | failed => rfl
  | launched aspOk pid =>
      simp [fork, afterSpawn_forkAndBufferAsyncAsp, Run.sendPaths]

theorem fork_afterSpawn_callPaths :
    (fork s c (afterSpawn · next)).callPaths =
      [c] :: match s with
        | .failed => []
        | .launched _ _ => next.callPaths.map (c :: ·) := by
  cases s with
  | failed => rfl
  | launched aspOk pid =>
      simp [fork, afterSpawn_forkAndBufferAsyncAsp, Run.callPaths]

/-- Every run of send in `r` happens in one process at most, forked by spawns of the stages
`L` in order, none of which failed. -/
def SendsAlong (spawn : Stage → Spawn) (r : Run) (L : List Stage) : Prop :=
  r.sendPaths.length ≤ 1 ∧ ∀ p ∈ r.sendPaths, p = L ∧ ∀ st ∈ p, spawn st ≠ .failed

/-- Every call path of `r` is a non-empty prefix of `L`. -/
def PrefixesOf (r : Run) (L : List Call) : Prop := ∀ p ∈ r.callPaths, p ≠ [] ∧ p <+: L

end Link

section Paths

variable {s : Spawn} {c : Call} {next : Run}

/-- Send paths that each extend one of `next`'s by a stage whose spawn did not fail. -/
theorem sendsAlong_of_map_cons {spawn : Stage → Spawn} {L : List Stage} {st : Stage} {r : Run}
    (h : SendsAlong spawn next L) (hst : spawn st ≠ .failed)
    (hr : r.sendPaths = next.sendPaths.map (st :: ·)) : SendsAlong spawn r (st :: L) := by
  rw [SendsAlong, hr]
  refine ⟨by simpa using h.1, ?_⟩
  simp only [List.mem_map, forall_exists_index, and_imp]
  rintro _ p hp rfl
  obtain ⟨rfl, hl⟩ := h.2 p hp
  exact ⟨rfl, List.forall_mem_cons.2 ⟨hst, hl⟩⟩

theorem fork_afterSpawn_sendsAlong {spawn : Stage → Spawn} {L : List Stage}
    (h : SendsAlong spawn next L) :
    SendsAlong spawn (fork (spawn c.stage) c (afterSpawn · next)) (c.stage :: L) := by
  cases hs : spawn c.stage with
  | failed => simp [SendsAlong, fork_afterSpawn_sendPaths, hs]
  | launched aspOk pid =>
      exact sendsAlong_of_map_cons h (by simp [hs]) (by rw [fork_afterSpawn_sendPaths])

theorem fork_afterSpawn_prefixesOf {L : List Call} (h : PrefixesOf next L) :
    PrefixesOf (fork s c (afterSpawn · next)) (c :: L) := by
  rw [PrefixesOf, fork_afterSpawn_callPaths]
  intro p hp
  rcases List.mem_cons.1 hp with rfl | hp
  · simp
  · cases s with
    | failed => simp at hp
    | launched aspOk pid =>
        obtain ⟨q, hq, rfl⟩ := List.mem_map.1 hp
        exact ⟨List.cons_ne_nil _ _, (List.prefix_cons_inj c).2 (h q hq).2⟩

end Paths

end Maat.Pipeline

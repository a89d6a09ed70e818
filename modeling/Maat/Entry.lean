import Maat.Scenario

/-! # The APB entry point

`apb_execute` checks its argument count, registers the types, resolves the two places
named by its arguments, loads the measurement specification, creates the graph, stages
the credentials, evaluates the specification and runs the sign-and-send pipeline. Every
failure jumps to a cleanup label and returns `ret_val`, whatever it last held, so exactly two
exits skip the pipeline and still return 0 (`apbExecute_eq_zero_without_pipeline_iff`). The
argument loop resolves each place from its first argument and ignores later copies
(`first_place_arguments_resolved`), and the measurement phase and the pipeline receive those
places and the scenario's credentials (`apbExecute_pipeline_inputs`). -/

namespace Maat.Entry

/-- `struct key_value`: one named argument. -/
structure KeyValue where
  key : String
  value : String
  deriving DecidableEq, Repr

/-- The seven credential copies of lines 550-590. -/
inductive Credential
  | certfile
  | keyfile
  | keypass
  | nonce
  | tpmpass
  | akctx
  | signTpm
  deriving DecidableEq, Repr

/-- What the collaborators of `apb_execute` return in one run. -/
structure EntryEnv where
  registerTypes : Int
  /-- `get_place_information(scen, value, &info)`: its result and the info it stored. -/
  getPlaceInformation : String → Int × Option PlaceInfo
  getTargetMeasSpec : Int
  /-- Whether `create_measurement_graph` returned a graph. -/
  createMeasurementGraph : Bool
  /-- Whether each credential's `strdup` could allocate. -/
  credentialDup : Credential → Bool

/-- Lines 550-597: each credential is copied, an unset one as "", and `sign_tpm` as "1" or
"0"; `none` when any copy could not be allocated. -/
def stageCredentials (scen : Scenario) (dup : Credential → Bool) : Option Staged :=
  let copy (c : Credential) (s : String) : Option String := if dup c then some s else none
  do
    let certfile ← copy .certfile (scen.certfile.getD "")
    let keyfile ← copy .keyfile (scen.keyfile.getD "")
    let keypass ← copy .keypass (scen.keypass.getD "")
    let nonce ← copy .nonce (scen.nonce.getD "")
    let tpmpass ← copy .tpmpass (scen.tpmpass.getD "")
    let akctx ← copy .akctx (scen.akctx.getD "")
    let signTpm ← copy .signTpm (if scen.signTpm then "1" else "0")
    pure ⟨certfile, keyfile, keypass, nonce, tpmpass, akctx, signTpm⟩

/-- Staging is all or nothing: it gives the scenario's credentials, an unset one as "" and
`sign_tpm` as "1" or "0", exactly when every copy could be allocated. -/
theorem stageCredentials_eq_some_iff {scen : Scenario} {dup : Credential → Bool} {g : Staged} :
    stageCredentials scen dup = some g ↔
      (∀ c, dup c = true) ∧
        g = ⟨scen.certfile.getD "", scen.keyfile.getD "", scen.keypass.getD "",
          scen.nonce.getD "", scen.tpmpass.getD "", scen.akctx.getD "",
          if scen.signTpm then "1" else "0"⟩ := by
  by_cases h : ∀ c, dup c = true
  · simp only [stageCredentials, h, if_true, true_and, implies_true, Option.pure_def,
      Option.bind_eq_bind, Option.some_bind, Option.some.injEq]
    exact eq_comm
  · have hnone : stageCredentials scen dup = none := by
      push_neg at h
      obtain ⟨c, hc⟩ := h
      simp only [stageCredentials, Option.pure_def, Option.bind_eq_bind]
      cases c <;> simp only [hc, Bool.false_eq_true, if_false, Option.none_bind, Option.bind_none]
    simp [hnone, h]

/-- `ret_val`, `g_dom_z_info` and `g_dom_t_info` during the argument loop. -/
structure PlaceState where
  retVal : Int
  domZ : Option PlaceInfo
  domT : Option PlaceInfo
  deriving DecidableEq, Repr

/-- Lines 501-512, and 514-525 for `@_t`: a place already resolved is kept and the
argument ignored; otherwise `get_place_information` decides, and a negative result jumps
to `place_arg_err` with it in `ret_val`. -/
def resolvePlace (lookup : String → Int × Option PlaceInfo) (retVal : Int)
    (current : Option PlaceInfo) (value : String) : Except Int (Int × Option PlaceInfo) :=
  match current with
  | some info => .ok (retVal, some info)
  | none =>
      let r := lookup value
      if r.1 < 0 then .error r.1 else .ok r

/-- One iteration of the argument loop, lines 499-530. Keys other than `@_0` and `@_t`
are logged and ignored. -/
def placeArgStep (lookup : String → Int × Option PlaceInfo) (st : PlaceState)
    (arg : KeyValue) : Except Int PlaceState :=
  if arg.key = "@_0" then
    (resolvePlace lookup st.retVal st.domZ arg.value).map fun r => { st with retVal := r.1, domZ := r.2 }
  else if arg.key = "@_t" then
    (resolvePlace lookup st.retVal st.domT arg.value).map fun r => { st with retVal := r.1, domT := r.2 }
  else .ok st

/-- `apb_execute(apb, scen, ..., arg_list, argc)`: the value it returns and whether it
called `execute_sign_send_pipeline`. `pipeline` gives what the measurement phase and the
pipeline return for the places left in `g_dom_z_info` and `g_dom_t_info` and the staged
credentials. -/
def apbExecute (env : EntryEnv) (scen : Scenario) (args : List KeyValue)
    (pipeline : Places → Staged → Int) : Int × Bool :=
  if args.length ≠ 2 then (-1, false)
  else if env.registerTypes < 0 then (env.registerTypes, false)
  else
    match args.foldlM (placeArgStep env.getPlaceInformation) ⟨env.registerTypes, none, none⟩ with
    | .error rc => (rc, false)
    | .ok st =>
        match st.domZ, st.domT with
        | some domZ, some domT =>
            let retVal := env.getTargetMeasSpec
            if retVal ≠ 0 then (retVal, false)
            else if !env.createMeasurementGraph then (-eio, false)
            else
              match stageCredentials scen env.credentialDup with
              | none => (retVal, false)
              | some g => (pipeline ⟨domZ, domT⟩ g, true)
        | _, _ => (st.retVal, false)

section Loop

variable (lookup : String → Int × Option PlaceInfo)

/-- A lookup that jumps out carries a negative value; one that goes on keeps `ret_val`
non-negative. -/
theorem resolvePlace_spec {retVal : Int} (current : Option PlaceInfo) (value : String)
    (h0 : 0 ≤ retVal) :
    match resolvePlace lookup retVal current value with
    | .error rc => rc < 0
    | .ok r => 0 ≤ r.1 := by
  cases current with
  | some info => exact h0
  | none =>
      simp only [resolvePlace]
      split_ifs with hr
      · exact hr
      · show 0 ≤ (lookup value).1
        omega

theorem placeArgStep_spec {st : PlaceState} (arg : KeyValue) (h0 : 0 ≤ st.retVal) :
    match placeArgStep lookup st arg with
    | .error rc => rc < 0
    | .ok st' => 0 ≤ st'.retVal := by
  unfold placeArgStep
  split_ifs
  · have h := resolvePlace_spec lookup st.domZ arg.value h0
    revert h
    cases resolvePlace lookup st.retVal st.domZ arg.value <;> exact id
  · have h := resolvePlace_spec lookup st.domT arg.value h0
    revert h
    cases resolvePlace lookup st.retVal st.domT arg.value <;> exact id
  · exact h0

/-- The argument loop either jumps out with a negative lookup result or ends with a
non-negative `ret_val`. -/
theorem foldlM_placeArgStep_spec (args : List KeyValue) (st : PlaceState)
    (h0 : 0 ≤ st.retVal) :
    match args.foldlM (placeArgStep lookup) st with
    | .error rc => rc < 0
    | .ok st' => 0 ≤ st'.retVal := by
  induction args generalizing st with
  | nil => exact h0
  | cons arg args ih =>
      have h := placeArgStep_spec lookup arg h0
      rw [List.foldlM_cons]
      revert h
      cases placeArgStep lookup st arg with
      | error rc => exact id
      | ok st' => exact ih st'

/-- With a lookup that stores the place whenever it succeeds, a lookup that goes on leaves
the place resolved: to the one it had, or to what the lookup gave. -/
theorem resolvePlace_ok (hlookup : ∀ v, 0 ≤ (lookup v).1 → (lookup v).2.isSome) {retVal : Int}
    {current : Option PlaceInfo} {value : String} {r : Int × Option PlaceInfo}
    (h : resolvePlace lookup retVal current value = .ok r) :
    r.2 = current.or (lookup value).2 ∧ r.2.isSome := by
  unfold resolvePlace at h
  split at h
  · cases h
    exact ⟨rfl, rfl⟩
  · dsimp only at h
    split_ifs at h with hr
    cases h
    exact ⟨rfl, hlookup value (by omega)⟩

/-- One step of the loop under such a lookup: an `@_0` argument leaves `@_0` resolved, to the
place it already had or to its lookup, and any other argument leaves `@_0` alone; likewise
for `@_t`. -/
theorem placeArgStep_places (hlookup : ∀ v, 0 ≤ (lookup v).1 → (lookup v).2.isSome)
    {st st' : PlaceState} {arg : KeyValue} (h : placeArgStep lookup st arg = .ok st') :
    (if arg.key = "@_0" then st'.domZ = st.domZ.or (lookup arg.value).2 ∧ st'.domZ.isSome
      else st'.domZ = st.domZ) ∧
    (if arg.key = "@_t" then st'.domT = st.domT.or (lookup arg.value).2 ∧ st'.domT.isSome
      else st'.domT = st.domT) := by
  unfold placeArgStep at h
  split_ifs at h with hz ht
  · rcases hres : resolvePlace lookup st.retVal st.domZ arg.value with _ | r <;>
      simp only [hres, Except.map, reduceCtorEq, Except.ok.injEq] at h
    subst h
    rw [if_pos hz, if_neg (by rw [hz]; decide)]
    exact ⟨resolvePlace_ok lookup hlookup hres, rfl⟩
  · rcases hres : resolvePlace lookup st.retVal st.domT arg.value with _ | r <;>
      simp only [hres, Except.map, reduceCtorEq, Except.ok.injEq] at h
    subst h
    rw [if_neg hz, if_pos ht]
    exact ⟨rfl, resolvePlace_ok lookup hlookup hres⟩
  · cases h
    simp [hz, ht]

/-- The loop from any state, under the same lookup. -/
theorem foldlM_placeArgStep_places (hlookup : ∀ v, 0 ≤ (lookup v).1 → (lookup v).2.isSome)
    (args : List KeyValue) {st st' : PlaceState}
    (h : args.foldlM (placeArgStep lookup) st = .ok st') :
    st'.domZ = st.domZ.or ((args.find? (·.key == "@_0")).bind fun a => (lookup a.value).2) ∧
      st'.domT = st.domT.or ((args.find? (·.key == "@_t")).bind fun a => (lookup a.value).2) := by
  induction args generalizing st with
  | nil =>
      cases h
      simp
  | cons arg args ih =>
      rw [List.foldlM_cons] at h
      rcases hs : placeArgStep lookup st arg with rc | st1
      · rw [hs] at h; cases h
      · rw [hs] at h
        obtain ⟨h1, h2⟩ := ih h
        obtain ⟨hzs, hts⟩ := placeArgStep_places lookup hlookup hs
        rw [h1, h2, List.find?_cons, List.find?_cons]
        by_cases hz : arg.key = "@_0"
        · have ht : arg.key ≠ "@_t" := by rw [hz]; decide
          rw [if_pos hz] at hzs
          rw [if_neg ht] at hts
          obtain ⟨a, ha⟩ := Option.isSome_iff_exists.1 hzs.2
          simp [hz, hts, ← hzs.1, ha]
        · by_cases ht : arg.key = "@_t"
          · rw [if_neg hz] at hzs
            rw [if_pos ht] at hts
            obtain ⟨a, ha⟩ := Option.isSome_iff_exists.1 hts.2
            simp [ht, hzs, ← hts.1, ha]
          · rw [if_neg hz] at hzs
            rw [if_neg ht] at hts
            simp [beq_false_of_ne hz, beq_false_of_ne ht, hzs, hts]

/-- With a lookup that stores the place whenever it succeeds, a loop that goes through
resolves `@_0` and `@_t` to what the lookups of their first arguments gave: a later copy of
either is ignored. -/
theorem first_place_arguments_resolved
    (hlookup : ∀ v, 0 ≤ (lookup v).1 → (lookup v).2.isSome) {args : List KeyValue}
    {retVal : Int} {st : PlaceState}
    (h : args.foldlM (placeArgStep lookup) ⟨retVal, none, none⟩ = .ok st) :
    st.domZ = (args.find? (·.key == "@_0")).bind (fun a => (lookup a.value).2) ∧
      st.domT = (args.find? (·.key == "@_t")).bind (fun a => (lookup a.value).2) :=
  foldlM_placeArgStep_places lookup hlookup args h

end Loop

/-- The spec's duplicate `@_0`: the second value is ignored, the first one's place is kept. -/
theorem duplicate_place_argument_keeps_first :
    (some ⟨"dom0", "9000"⟩ : Option PlaceInfo) =
        (([⟨"@_0", "dom0"⟩, ⟨"@_0", "dom0-again"⟩] : List KeyValue).find? (·.key == "@_0")).bind
          (fun a => some ⟨a.value, "9000"⟩) ∧
      (none : Option PlaceInfo) =
        (([⟨"@_0", "dom0"⟩, ⟨"@_0", "dom0-again"⟩] : List KeyValue).find? (·.key == "@_t")).bind
          (fun a => some ⟨a.value, "9000"⟩) :=
  @first_place_arguments_resolved (fun v => (0, some ⟨v, "9000"⟩)) (fun _ _ => rfl)
    [⟨"@_0", "dom0"⟩, ⟨"@_0", "dom0-again"⟩] 0 ⟨0, some ⟨"dom0", "9000"⟩, none⟩ rfl

/-- `apb_execute` skips the pipeline and still returns 0 exactly on two exits: the place
check, after a loop that left 0 in `ret_val`, and a failed credential copy, where `ret_val`
still holds the 0 of `get_target_meas_spec`. -/
theorem apbExecute_eq_zero_without_pipeline_iff (env : EntryEnv) (scen : Scenario)
    (args : List KeyValue) (pipeline : Places → Staged → Int) :
    apbExecute env scen args pipeline = (0, false) ↔
      args.length = 2 ∧ 0 ≤ env.registerTypes ∧
      ∃ st, args.foldlM (placeArgStep env.getPlaceInformation)
          ⟨env.registerTypes, none, none⟩ = .ok st ∧
        ((st.domZ.isNone ∨ st.domT.isNone) ∧ st.retVal = 0 ∨
          st.domZ.isSome ∧ st.domT.isSome ∧ env.getTargetMeasSpec = 0 ∧
            env.createMeasurementGraph ∧ stageCredentials scen env.credentialDup = none) := by
  unfold apbExecute
  by_cases hl : args.length = 2
  swap
  · simp [hl]
  by_cases hr : env.registerTypes < 0
  · simp [hl, hr, show env.registerTypes ≠ 0 by omega, show ¬0 ≤ env.registerTypes by omega]
  have hspec := foldlM_placeArgStep_spec env.getPlaceInformation args
    ⟨env.registerTypes, none, none⟩ (Int.not_lt.1 hr)
  simp only [hl, ne_eq, not_true_eq_false, if_false, hr, true_and,
    show 0 ≤ env.registerTypes by omega]
  revert hspec
  cases args.foldlM (placeArgStep env.getPlaceInformation) ⟨env.registerTypes, none, none⟩ with
  | error rc =>
      intro hrc
      simp only [Prod.mk.injEq, and_true, reduceCtorEq, false_and, exists_false, iff_false]
      omega
  | ok st =>
      intro _
      simp only [Except.ok.injEq, exists_eq_left']
      cases st.domZ <;> cases st.domT <;> simp
      split_ifs with hm hg <;> simp_all [eio]
      cases stageCredentials scen env.credentialDup <;> simp

/-- Whenever `apb_execute` runs the pipeline, it hands it the places of the first `@_0` and
the first `@_t` argument, as `get_place_information` resolved them, and the scenario's
credentials, an unset one as "" and `sign_tpm` as "1" or "0"; it returns what the pipeline
returned. -/
theorem apbExecute_pipeline_inputs (env : EntryEnv) (scen : Scenario) (args : List KeyValue)
    (pipeline : Places → Staged → Int) {r : Int}
    (hlookup : ∀ v, 0 ≤ (env.getPlaceInformation v).1 → (env.getPlaceInformation v).2.isSome)
    (h : apbExecute env scen args pipeline = (r, true)) :
    ∃ domZ domT, r = pipeline ⟨domZ, domT⟩
        ⟨scen.certfile.getD "", scen.keyfile.getD "", scen.keypass.getD "",
          scen.nonce.getD "", scen.tpmpass.getD "", scen.akctx.getD "",
          if scen.signTpm then "1" else "0"⟩ ∧
      (args.find? (·.key == "@_0")).bind (fun a => (env.getPlaceInformation a.value).2) =
        some domZ ∧
      (args.find? (·.key == "@_t")).bind (fun a => (env.getPlaceInformation a.value).2) =
        some domT := by
  unfold apbExecute at h
  by_cases hl : args.length ≠ 2
  · simp [hl] at h
  by_cases hr : env.registerTypes < 0
  · simp [hl, hr] at h
  rw [if_neg hl, if_neg hr] at h
  rcases hf : args.foldlM (placeArgStep env.getPlaceInformation)
    ⟨env.registerTypes, none, none⟩ with rc | st
  · simp [hf] at h
  obtain ⟨hz, ht⟩ := foldlM_placeArgStep_places _ hlookup args hf
  simp only [hf] at h
  rcases hdz : st.domZ with _ | domZ <;> rcases hdt : st.domT with _ | domT <;>
    simp only [hdz, hdt, Prod.mk.injEq, Bool.false_eq_true, and_false] at h
  split_ifs at h
  · simp at h
  · simp at h
  rcases hs : stageCredentials scen env.credentialDup with _ | g <;>
    simp only [hs, Prod.mk.injEq, Bool.false_eq_true, and_false, and_true] at h
  obtain ⟨-, rfl⟩ := stageCredentials_eq_some_iff.1 hs
  exact ⟨domZ, domT, h.symm, hz.symm.trans hdz, ht.symm.trans hdt⟩

/-- The spec's two place arguments, each looked up at port 9000: the pipeline gets "dom0" as
`@_0` and "target" as `@_t`. -/
theorem both_places_reach_pipeline :
    ∃ domZ domT, (0 : Int) = (fun _ _ => 0 : Places → Staged → Int) ⟨domZ, domT⟩
        ⟨"", "", "", "", "", "", "0"⟩ ∧
      (([⟨"@_0", "dom0"⟩, ⟨"@_t", "target"⟩] : List KeyValue).find? (·.key == "@_0")).bind
          (fun a => some (⟨a.value, "9000"⟩ : PlaceInfo)) = some domZ ∧
      (([⟨"@_0", "dom0"⟩, ⟨"@_t", "target"⟩] : List KeyValue).find? (·.key == "@_t")).bind
          (fun a => some (⟨a.value, "9000"⟩ : PlaceInfo)) = some domT :=
  apbExecute_pipeline_inputs ⟨0, fun v => (0, some ⟨v, "9000"⟩), 0, true, fun _ => true⟩
    ⟨none, none, none, none, none, none, false, none, none, none, 0⟩
    [⟨"@_0", "dom0"⟩, ⟨"@_t", "target"⟩] (fun _ _ => 0) (fun _ _ => rfl) (by decide)

/-- With `@_0` given twice and no `@_t`, or with a credential copy failing,
`apb_execute` returns 0 without running the pipeline. -/
theorem apbExecute_returns_zero_without_pipeline :
    apbExecute ⟨0, fun _ => (0, some ⟨"127.0.0.1", "9000"⟩), 0, true, fun _ => true⟩
        ⟨none, none, none, none, none, none, false, none, none, none, 0⟩
        [⟨"@_0", "dom0"⟩, ⟨"@_0", "dom0-again"⟩] (fun _ _ => 1) = (0, false) ∧
    apbExecute ⟨0, fun _ => (0, some ⟨"127.0.0.1", "9000"⟩), 0, true, fun _ => false⟩
        ⟨none, none, none, none, none, none, false, none, none, none, 0⟩
        [⟨"@_0", "dom0"⟩, ⟨"@_t", "target"⟩] (fun _ _ => 1) = (0, false) :=
  ⟨(apbExecute_eq_zero_without_pipeline_iff _ _ _ _).2
      ⟨rfl, Int.le_refl 0, ⟨0, some ⟨"127.0.0.1", "9000"⟩, none⟩, rfl, .inl ⟨.inr rfl, rfl⟩⟩,
    (apbExecute_eq_zero_without_pipeline_iff _ _ _ _).2
      ⟨rfl, Int.le_refl 0, ⟨0, some ⟨"127.0.0.1", "9000"⟩, some ⟨"127.0.0.1", "9000"⟩⟩, rfl,
        .inr ⟨rfl, rfl, rfl, rfl, rfl⟩⟩⟩

end Maat.Entry

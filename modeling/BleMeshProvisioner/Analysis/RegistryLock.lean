import BleMeshProvisioner.Analysis.Registry

/-!
# The registry under concurrent callers

`provisioner_store_node` and `provisioner_reset_node` hold `bt_mesh_provisioner_lock`
while they search, copy, count and write through. The UUID scan of
`bt_mesh_provisioner_store_node_info` (`provisioner_main.c:525-543`) and the scans of the
two `find_reset` functions (`:253-288`) run before it is taken. Here each caller is cut at
the lock into atomic blocks: a scan, then the locked block it leads to. A schedule says,
block by block, which caller runs next, so step order is real-time order.

Run without interruption a caller's blocks are its sequential call, so a serial schedule
is a sequential execution (`Sys.run_serial`). Every schedule keeps the counters consistent
with the table (`Sys.run_registryInv`). But a scan's answer can be stale by the time its
caller takes the lock. Two callers storing one UUID can both pass their scans
(`storeNodeInfo_scans_pass`) and both insert, which no sequential order allows
(`storeNodeInfo_twice_eexist`). A `find_reset` can free a slot that another caller has
refilled since the scan, which a `find_reset` run alone never does: run alone, its reset
slot is the one its scan found.
-/

set_option autoImplicit false

namespace BleMeshProvisioner

variable (cfg : Config)

/-- A registry call made by one of several concurrent callers: the calls that admit or
remove nodes, with `osi_calloc`'s answer where they allocate; the `find_reset` calls are
made with `reset = true`. -/
inductive RegCall where
  | provision (addr : Option MeshAddr) (uuid : Option Bytes16)
      (oobInfo unicastAddr elementNum netIdx flags ivIndex : Nat) (devKey : Option Bytes16)
      (index alloc : Bool)
  | storeNodeInfo (node : Option Node) (prov alloc : Bool)
  | findResetWithUuid (uuid : Bytes16)
  | findResetWithAddr (addr : MeshAddr)
  deriving DecidableEq

/-- A call run alone: what it returns (a `find_reset`'s `bool` as 1 or 0) and the state it
leaves. -/
def RegCall.run (s : BtMesh) : RegCall → Int × BtMesh
  | .provision a u o ua en ni f iv dk ix al =>
    let r := provisionerNodeProvision cfg s a u o ua en ni f iv dk ix al
    (r.1, r.2.2)
  | .storeNodeInfo node prov alloc => btMeshProvisionerStoreNodeInfo cfg s node prov alloc
  | .findResetWithUuid uuid =>
    let r := provisionerFindResetNodeWithUuid cfg s uuid true
    (if r.1 then 1 else 0, r.2)
  | .findResetWithAddr addr =>
    let r := provisionerFindResetNodeWithAddr cfg s addr true
    (if r.1 then 1 else 0, r.2)

/-- Where a caller stands: before its first block; past the UUID scan of
`bt_mesh_provisioner_store_node_info`, waiting for the lock; past a `find_reset` scan that
found slot `i`; or returned. -/
inductive Pc where
  | start
  | storing
  | resetting (i : Nat)
  | done (ret : Int)
  deriving DecidableEq

/-- One atomic block of a caller at `pc`: the unlocked UUID scan of `store_node_info`,
which returns -EEXIST or goes on, and the locked store it leads to;
`provisioner_node_provision`, whose argument checks touch nothing shared, with its store;
a `find_reset` scan, which returns `false` or goes on with the slot it found, and the locked
reset of that slot, after which the call returns `true`. A returned caller does nothing. -/
def RegCall.block (s : BtMesh) : RegCall → Pc → Pc × BtMesh
  | .provision a u o ua en ni f iv dk ix al, .start =>
    let r := provisionerNodeProvision cfg s a u o ua en ni f iv dk ix al
    (.done r.1, r.2.2)
  | .storeNodeInfo none _ _, .start => (.done (-einval), s)
  | .storeNodeInfo (some node) _ _, .start =>
    if (live s.meshNodes).any (·.devUuid == node.devUuid) then (.done (-eexist), s)
    else (.storing, s)
  | .storeNodeInfo (some node) prov alloc, .storing =>
    let r := provisionerStoreNode cfg s node prov alloc
    (.done r.1, r.2.2)
  | .findResetWithUuid uuid, .start =>
    match findRow (fun n => n.devUuid == uuid) (s.meshNodes.take cfg.maxProvNodes) with
    | none => (.done 0, s)
    | some (i, _) => (.resetting i, s)
  | .findResetWithAddr addr, .start =>
    match findRow (fun n => n.addr.val == addr.val && n.addr.type == addr.type)
        (s.meshNodes.take cfg.maxProvNodes) with
    | none => (.done 0, s)
    | some (i, _) => (.resetting i, s)
  | _, .resetting i => (.done 1, (provisionerResetNode cfg s i).2)
  | _, pc => (pc, s)

/-- The shared state and every caller, with its call and where it stands. -/
structure Sys where
  mesh : BtMesh
  callers : List (RegCall × Pc)

/-- Every caller about to make its call. -/
def Sys.init (s : BtMesh) (calls : List RegCall) : Sys := ⟨s, calls.map (·, .start)⟩

/-- Caller `k` runs its next block; a schedule entry naming no caller changes nothing. -/
def Sys.step (sys : Sys) (k : Nat) : Sys :=
  match sys.callers[k]? with
  | none => sys
  | some (c, pc) =>
    let r := c.block cfg sys.mesh pc
    ⟨r.2, sys.callers.set k (c, r.1)⟩

/-- The system after the blocks a schedule names, in its order. -/
def Sys.run (sys : Sys) (sched : List Nat) : Sys := sched.foldl (Sys.step cfg) sys

/-- The calls run one after another, each to completion: what each returns, and the final
state. -/
def seqRun (s : BtMesh) : List RegCall → List Int × BtMesh
  | [] => ([], s)
  | c :: cs =>
    let r := c.run cfg s
    let rest := seqRun r.2 cs
    (r.1 :: rest.1, rest.2)

/-- The schedule that runs callers `b, b + 1, …, b + n - 1` one after another, two blocks
each: enough for every call. -/
def serial (b : Nat) : Nat → List Nat
  | 0 => []
  | n + 1 => b :: b :: serial (b + 1) n

/-! ## Serial schedules are sequential executions -/

/-- A caller's blocks run back to back make its sequential call. -/
theorem RegCall.block_block_start (s : BtMesh) (c : RegCall) :
    c.block cfg (c.block cfg s .start).2 (c.block cfg s .start).1 =
      (.done (c.run cfg s).1, (c.run cfg s).2) := by
  cases c with
  | provision => rfl
  | storeNodeInfo node prov alloc =>
    cases node with
    | none => rfl
    | some node =>
      by_cases h : (live s.meshNodes).any (·.devUuid == node.devUuid)
      · rw [RegCall.run, btMeshProvisionerStoreNodeInfo, if_pos h, RegCall.block, if_pos h]; rfl
      · rw [RegCall.run, btMeshProvisionerStoreNodeInfo, if_neg h, RegCall.block, if_neg h]; rfl
  | findResetWithUuid uuid =>
    rw [RegCall.run, provisionerFindResetNodeWithUuid, RegCall.block]
    cases findRow (fun n => n.devUuid == uuid) (s.meshNodes.take cfg.maxProvNodes) <;> rfl
  | findResetWithAddr addr =>
    rw [RegCall.run, provisionerFindResetNodeWithAddr, RegCall.block]
    cases findRow (fun n => n.addr.val == addr.val && n.addr.type == addr.type)
      (s.meshNodes.take cfg.maxProvNodes) <;> rfl

/-- INTERNAL: Two blocks of the caller in slot `pre.length`, from its start, leave it
returned with its sequential result. -/
theorem Sys.step_step_start (s : BtMesh) (pre rest : List (RegCall × Pc)) (c : RegCall) :
    Sys.step cfg (Sys.step cfg ⟨s, pre ++ (c, .start) :: rest⟩ pre.length) pre.length =
      ⟨(c.run cfg s).2, pre ++ (c, .done (c.run cfg s).1) :: rest⟩ := by
  have hget : ∀ x : RegCall × Pc, (pre ++ x :: rest)[pre.length]? = some x := fun x => by
    rw [List.getElem?_append_right (Nat.le_refl _), Nat.sub_self, List.getElem?_cons_zero]
  simp only [Sys.step, hget, List.set_append_right _ _ (Nat.le_refl _), Nat.sub_self,
    List.set_cons_zero, RegCall.block_block_start]

/-- A serial schedule makes each call's sequential result and the sequential final state:
cutting the calls at the lock refines the sequential model. -/
theorem Sys.run_serial (s : BtMesh) (pre : List (RegCall × Pc)) (calls : List RegCall) :
    Sys.run cfg ⟨s, pre ++ calls.map (·, .start)⟩ (serial pre.length calls.length) =
      ⟨(seqRun cfg s calls).2,
        pre ++ List.zipWith (fun c r => (c, .done r)) calls (seqRun cfg s calls).1⟩ := by
  induction calls generalizing s pre with
  | nil => simp [serial, Sys.run, seqRun]
  | cons c cs ih =>
    have h := ih (c.run cfg s).2 (pre ++ [(c, .done (c.run cfg s).1)])
    simp only [List.length_append, List.length_singleton, List.append_assoc,
      List.singleton_append] at h
    simp only [Sys.run, serial, List.length_cons, List.map_cons, List.foldl_cons,
      Sys.step_step_start, seqRun, List.zipWith_cons_cons] at h ⊢
    exact h

/-! ## What every schedule keeps -/

section Blocks

variable {s : BtMesh}

/-- INTERNAL: A block leaves the state, or stores a node, or provisions one, or resets a
slot. -/
theorem RegCall.block_cases (c : RegCall) (pc : Pc) :
    (c.block cfg s pc).2 = s ∨
      (∃ node prov alloc, (c.block cfg s pc).2 = (provisionerStoreNode cfg s node prov alloc).2.2) ∨
      (∃ op, (c.block cfg s pc).2 = nodeStep cfg s op) ∨
      ∃ i, (c.block cfg s pc).2 = (provisionerResetNode cfg s i).2 := by
  unfold RegCall.block
  split
  · exact .inr (.inr (.inl ⟨.provision _ _ _ _ _ _ _ _ _ _ _, rfl⟩))
  · exact .inl rfl
  · split_ifs <;> exact .inl rfl
  · exact .inr (.inl ⟨_, _, _, rfl⟩)
  · split <;> exact .inl rfl
  · split <;> exact .inl rfl
  · exact .inr (.inr (.inr ⟨_, rfl⟩))
  · exact .inl rfl

/-- Every block of every registry caller keeps the registry invariant. -/
theorem RegCall.block_registryInv (hinv : RegistryInv cfg s) (c : RegCall) (pc : Pc) :
    RegistryInv cfg (c.block cfg s pc).2 := by
  rcases c.block_cases cfg pc with h | ⟨node, prov, alloc, h⟩ | ⟨op, h⟩ | ⟨i, h⟩ <;> rw [h]
  · exact hinv
  · exact storeNode_registryInv cfg hinv node prov alloc
  · exact nodeStep_registryInv cfg hinv op
  · exact resetNode_registryInv cfg hinv i

end Blocks

/-- Under any interleaving, one block keeps the registry invariant. -/
theorem Sys.step_registryInv {sys : Sys} (h : RegistryInv cfg sys.mesh) (k : Nat) :
    RegistryInv cfg (Sys.step cfg sys k).mesh := by
  unfold Sys.step
  split
  · exact h
  · exact RegCall.block_registryInv cfg h _ _

/-- Under every schedule, whatever the callers' calls and wherever they stand, the
counters count the occupied slots: the locked blocks keep them consistent. -/
theorem Sys.run_registryInv {sys : Sys} (h : RegistryInv cfg sys.mesh) (sched : List Nat) :
    RegistryInv cfg (Sys.run cfg sys sched).mesh := by
  induction sched generalizing sys with
  | nil => exact h
  | cons k ks ih => exact ih (Sys.step_registryInv cfg h k)

/-- Two callers storing one UUID, interleaved so that both insert: the counters still count
the occupied slots. -/
theorem Sys.run_registryInv_racingStores :
    RegistryInv smallConfig (Sys.run smallConfig (Sys.init (bootState smallConfig 0 0 [])
      [.storeNodeInfo (some (sampleNode 1 2)) true true,
        .storeNodeInfo (some (sampleNode 1 3)) false true]) [0, 1, 0, 1]).mesh :=
  Sys.run_registryInv smallConfig (emptyRegistry_bootState smallConfig 0 0 []).registryInv _

/-! ## Sequential executions against stale scans -/

section Sequential

variable {s : BtMesh}

/-- Run one after the other, two calls of `bt_mesh_provisioner_store_node_info` for one
UUID never both insert: once the first has returned 0, the second returns -EEXIST. -/
theorem storeNodeInfo_twice_eexist {node node' : Node} (huuid : node'.devUuid = node.devUuid)
    {prov alloc : Bool} (h : (btMeshProvisionerStoreNodeInfo cfg s (some node) prov alloc).1 = 0)
    (prov' alloc' : Bool) :
    (btMeshProvisionerStoreNodeInfo cfg (btMeshProvisionerStoreNodeInfo cfg s (some node) prov
      alloc).2 (some node') prov' alloc').1 = -eexist := by
  refine (storeNodeInfo_eexist_iff cfg node' prov' alloc').mpr ⟨node, ?_, huuid.symm⟩
  unfold btMeshProvisionerStoreNodeInfo at h ⊢
  dsimp only at h ⊢
  split_ifs at h ⊢
  · simp [eexist] at h
  · rcases storeNode_cases cfg (s := s) node prov alloc with ⟨hr, -⟩ | ⟨i, hi, -, hr⟩ <;>
      simp only [hr] at h ⊢
    · simp [enomem] at h
    · simpa using (live_set_free (a := node) (firstFreeIn_eq_some.mp hi).2.2.1).mem_iff.mpr
        (List.mem_cons_self _ _)

end Sequential

/-! ## The race -/

/-- Two callers of `bt_mesh_provisioner_store_node_info` for one absent UUID both pass
their scans when both scan before either stores; the table is untouched and both wait
for the lock. -/
theorem storeNodeInfo_scans_pass {s : BtMesh} {node node' : Node}
    (huuid : node'.devUuid = node.devUuid) (habs : ∀ n ∈ live s.meshNodes, n.devUuid ≠ node.devUuid)
    (prov alloc prov' alloc' : Bool) :
    Sys.run cfg (Sys.init s [.storeNodeInfo (some node) prov alloc,
      .storeNodeInfo (some node') prov' alloc']) [0, 1] =
      ⟨s, [(.storeNodeInfo (some node) prov alloc, .storing),
        (.storeNodeInfo (some node') prov' alloc', .storing)]⟩ := by
  have hany : ∀ u, u = node.devUuid → (live s.meshNodes).any (·.devUuid == u) = false :=
    fun u hu => by simpa [hu] using habs
  simp [Sys.run, Sys.init, Sys.step, RegCall.block, hany _ huuid, hany _ rfl]

/-- Two callers storing one UUID, one as self-provisioned and one as registered from
outside. -/
def racingStores : List RegCall :=
  [.storeNodeInfo (some (sampleNode 1 2)) true true, .storeNodeInfo (some (sampleNode 1 3)) false true]

/-- Two callers resetting the node with UUID 1 while a third provisions one with UUID 2. -/
def racingResets : List RegCall :=
  [.findResetWithUuid (testKey 1), .findResetWithUuid (testKey 1),
    .provision (some (sampleNode 2 3).addr) (some (testKey 2)) 0 3 1 0 0 0 (some (testKey 2))
      true true]

/-- The registry holding one node, with UUID 1, in the self-provisioned partition's only
slot. -/
def oneNodeStore : BtMesh :=
  (btMeshProvisionerStoreNodeInfo smallConfig (bootState smallConfig 0 0 []) (some (sampleNode 1 2))
    true true).2

/-- Two callers storing one UUID, scheduled scan, scan, store, store, both return 0 and
leave the UUID in two slots, while either sequential order returns 0 then -EEXIST. Two
callers resetting UUID 1 both find slot 0; after the first reset a provision refills it
with the UUID-2 node, and the second reset frees it. -/
theorem storeNodeInfo_race_inserts_twice :
    (Sys.run smallConfig (Sys.init (bootState smallConfig 0 0 []) racingStores)
        [0, 1, 0, 1]).callers.map (·.2) = [.done 0, .done 0] ∧
      (live (Sys.run smallConfig (Sys.init (bootState smallConfig 0 0 []) racingStores)
        [0, 1, 0, 1]).mesh.meshNodes).map (·.devUuid) = [testKey 1, testKey 1] ∧
      (seqRun smallConfig (bootState smallConfig 0 0 []) racingStores).1 = [0, -eexist] ∧
      (seqRun smallConfig (bootState smallConfig 0 0 []) racingStores.reverse).1 = [0, -eexist] ∧
      ((Sys.run smallConfig (Sys.init oneNodeStore racingResets) [0, 1, 0, 2]).mesh.meshNodes[0]?.bind
        id).map (·.devUuid) = some (testKey 2) ∧
      (Sys.run smallConfig (Sys.init oneNodeStore racingResets) [0, 1, 0, 2]).callers[1]? =
        some (.findResetWithUuid (testKey 1), .resetting 0) ∧
      (Sys.run smallConfig (Sys.init oneNodeStore racingResets) [0, 1, 0, 2, 1]).mesh.meshNodes[0]? =
        some none := by
  -- both scans pass before either store takes the lock
  have hscan : Sys.run smallConfig (Sys.init (bootState smallConfig 0 0 []) racingStores) [0, 1] = _ :=
    @storeNodeInfo_scans_pass smallConfig (bootState smallConfig 0 0 []) (sampleNode 1 2)
      (sampleNode 1 3) rfl (by decide) true true false true
  have hrace : Sys.run smallConfig (Sys.init (bootState smallConfig 0 0 []) racingStores) [0, 1, 0, 1] =
      Sys.run smallConfig (Sys.run smallConfig (Sys.init (bootState smallConfig 0 0 []) racingStores)
        [0, 1]) [0, 1] := List.foldl_append (Sys.step smallConfig) _ [0, 1] [0, 1]
  -- either sequential order: the first store returns 0, so the second returns -EEXIST
  have h0 : (btMeshProvisionerStoreNodeInfo smallConfig (bootState smallConfig 0 0 [])
      (some (sampleNode 1 2)) true true).1 = 0 := by decide
  have h0' : (btMeshProvisionerStoreNodeInfo smallConfig (bootState smallConfig 0 0 [])
      (some (sampleNode 1 3)) false true).1 = 0 := by decide
  refine ⟨by rw [hrace, hscan]; decide, by rw [hrace, hscan]; decide, ?_, ?_, by decide, by decide,
    by decide⟩
  · show (seqRun smallConfig _ [_, _]).1 = _
    simp only [seqRun, RegCall.run, h0, @storeNodeInfo_twice_eexist smallConfig _ (sampleNode 1 2)
      (sampleNode 1 3) rfl _ _ h0 false true]
  · show (seqRun smallConfig _ [_, _]).1 = _
    simp only [seqRun, RegCall.run, h0', @storeNodeInfo_twice_eexist smallConfig _ (sampleNode 1 3)
      (sampleNode 1 2) rfl _ _ h0' true true]

end BleMeshProvisioner

import BleMeshProvisioner.Analysis.Partitions

/-!
# No admission is lost

`bt_mesh_provisioner_store_node_info` (`provisioner_main.c:525-543`) scans for the UUID
before it takes `bt_mesh_provisioner_lock`, so two callers can both admit one UUID
(`Analysis/RegistryLock`). What the lock does protect is the write: `provisioner_store_node`
(`:123-171`) searches for a free slot and fills it inside one locked block, and so does
`provisioner_node_provision` (`:173-202`), which stores through it.

So under every schedule of callers that only admit nodes, nothing one of them admits is
lost (`Sys.run_admissionsKept`): every node in the registry at the start is still in its
slot, the registry holds exactly one more node for each caller that has returned 0, and each
store that has returned 0 finds its node in the registry. The proof is one invariant
(`AdmitInv`), kept by every block because a block either changes nothing a count depends
on or fills one free slot and returns its caller 0 (`RegCall.block_admits`).
-/

set_option autoImplicit false

namespace BleMeshProvisioner

variable (cfg : Config)

/-- Whether a call only admits nodes: a provisioning or a store, no `find_reset`. -/
def RegCall.admits : RegCall → Bool
  | .findResetWithUuid _ | .findResetWithAddr _ => false
  | _ => true

section Blocks

variable {s : BtMesh}

/-- INTERNAL: A store that returns 0 fills a free slot with the node; one that does not
leaves the state. -/
theorem storeNode_fills (node : Node) (prov alloc : Bool) :
    ((provisionerStoreNode cfg s node prov alloc).1 ≠ 0 ∧
        (provisionerStoreNode cfg s node prov alloc).2.2 = s) ∨
      ((provisionerStoreNode cfg s node prov alloc).1 = 0 ∧ ∃ i, s.meshNodes[i]? = some none ∧
        (provisionerStoreNode cfg s node prov alloc).2.2.meshNodes = s.meshNodes.set i (some node)) := by
  rcases storeNode_cases cfg (s := s) node prov alloc with ⟨hr, -⟩ | ⟨i, hi, -, hr⟩ <;> rw [hr]
  · exact .inl ⟨neg_enomem_ne_zero, rfl⟩
  · exact .inr ⟨rfl, i, (firstFreeIn_eq_some.mp hi).2.2.1, by simp⟩

/-- One block of an admitting caller that is not about to reset: it changes nothing, or it
leaves the table and returns its caller an error, or it fills a free slot, with the node
the call stores if it is a store, and returns its caller 0. -/
theorem RegCall.block_admits {c : RegCall} (hc : c.admits = true) {pc : Pc}
    (hpc : ∀ j, pc ≠ .resetting j) :
    (∀ j, (c.block cfg s pc).1 ≠ .resetting j) ∧
      (c.block cfg s pc = (pc, s) ∨
        ((c.block cfg s pc).2 = s ∧ (c.block cfg s pc).1 ≠ .done 0 ∧ pc ≠ .done 0) ∨
        ((c.block cfg s pc).1 = .done 0 ∧ pc ≠ .done 0 ∧ ∃ i n, s.meshNodes[i]? = some none ∧
          (c.block cfg s pc).2.meshNodes = s.meshNodes.set i (some n) ∧
          ∀ node prov alloc, c = .storeNodeInfo (some node) prov alloc → n = node)) := by
  unfold RegCall.block
  split
  · -- `provisioner_node_provision`: its checks, then a store
    refine ⟨nofun, .inr ?_⟩
    unfold provisionerNodeProvision
    split
    · rcases storeNode_fills cfg _ true _ with ⟨hr, he⟩ | ⟨hr, i, hi, he⟩
      · exact .inl ⟨he, fun h => hr (Pc.done.inj h), nofun⟩
      · exact .inr ⟨congrArg Pc.done hr, nofun, i, _, hi, he, nofun⟩
    · exact .inl ⟨rfl, fun h => neg_einval_ne_zero (Pc.done.inj h), nofun⟩
  · exact ⟨nofun, .inr (.inl ⟨rfl, fun h => neg_einval_ne_zero (Pc.done.inj h), nofun⟩)⟩
  · -- the unlocked UUID scan
    split_ifs
    · exact ⟨nofun, .inr (.inl ⟨rfl, fun h => neg_eexist_ne_zero (Pc.done.inj h), nofun⟩)⟩
    · exact ⟨nofun, .inr (.inl ⟨rfl, nofun, nofun⟩)⟩
  · -- the locked store
    rename_i node prov alloc
    refine ⟨nofun, .inr ?_⟩
    rcases storeNode_fills cfg node prov alloc with ⟨hr, he⟩ | ⟨hr, i, hi, he⟩
    · exact .inl ⟨he, fun h => hr (Pc.done.inj h), nofun⟩
    · exact .inr ⟨congrArg Pc.done hr, nofun, i, node, hi, he, fun _ _ _ h => by cases h; rfl⟩
  · simp [RegCall.admits] at hc
  · simp [RegCall.admits] at hc
  · exact absurd rfl (hpc _)
  · exact ⟨hpc, .inl rfl⟩

end Blocks

/-- What every schedule of admitting callers keeps, from the registry `s0` they started on:
every caller admits and none is about to reset; every node of `s0` is in its slot; the
registry holds one node more than `s0` for each caller that has returned 0; and each store
that has returned 0 has its node in the registry. -/
structure AdmitInv (s0 : BtMesh) (sys : Sys) : Prop where
  admits : ∀ c ∈ sys.callers, c.1.admits = true ∧ ∀ j, c.2 ≠ .resetting j
  kept : ∀ (i : Nat) (n : Node), s0.meshNodes[i]? = some (some n) →
    sys.mesh.meshNodes[i]? = some (some n)
  count : (live sys.mesh.meshNodes).length =
    (live s0.meshNodes).length + sys.callers.countP (·.2 == .done 0)
  stored : ∀ node prov alloc, (RegCall.storeNodeInfo (some node) prov alloc, Pc.done 0) ∈ sys.callers →
    node ∈ live sys.mesh.meshNodes

/-- Before any block has run, a set of admitting callers keeps the invariant: nothing has
returned and the registry is the one they started on. -/
theorem AdmitInv.init (s0 : BtMesh) (calls : List RegCall) (h : ∀ c ∈ calls, c.admits = true) :
    AdmitInv s0 (Sys.init s0 calls) where
  admits c hc := by
    obtain ⟨c', hc', rfl⟩ := List.mem_map.mp hc
    exact ⟨h c' hc', nofun⟩
  kept _ _ h := h
  count := by simp [Sys.init, List.countP_eq_zero]
  stored _ _ _ hm := by
    obtain ⟨c', -, he⟩ := List.mem_map.mp hm
    cases he

/-- One block of any caller keeps the invariant. -/
theorem AdmitInv.step {s0 : BtMesh} {sys : Sys} (h : AdmitInv s0 sys) (k : Nat) :
    AdmitInv s0 (Sys.step cfg sys k) := by
  unfold Sys.step
  split
  · exact h
  rename_i c pc hk
  dsimp only
  obtain ⟨hlt, hget⟩ := List.getElem?_eq_some_iff.mp hk
  obtain ⟨hc, hpc⟩ := h.admits _ (List.mem_iff_getElem?.mpr ⟨k, hk⟩)
  obtain ⟨hres, hblock⟩ := RegCall.block_admits cfg (s := sys.mesh) hc hpc
  have hadmits : ∀ c' ∈ sys.callers.set k (c, (c.block cfg sys.mesh pc).1),
      c'.1.admits = true ∧ ∀ j, c'.2 ≠ .resetting j := fun c' hc' => by
    rcases List.mem_or_eq_of_mem_set hc' with hc' | rfl
    · exact h.admits c' hc'
    · exact ⟨hc, hres⟩
  have hcount := List.countP_set (fun c : RegCall × Pc => c.2 == .done 0) sys.callers k
    (c, (c.block cfg sys.mesh pc).1) hlt
  rw [hget] at hcount
  rcases hblock with hsame | ⟨hs, hr, hp⟩ | ⟨hr, hp, i, n, hfree, hmesh, hn⟩
  · -- nothing changes
    rw [hsame]
    simpa only [set_eq_self_of_getElem? hk] using h
  · -- an error: the table stays
    refine ⟨hadmits, ?_, ?_, ?_⟩
    · rw [hs]; exact h.kept
    · rw [hs, h.count, hcount]; simp [hr, hp]
    · intro node prov alloc hm
      rw [hs]
      rcases List.mem_or_eq_of_mem_set hm with hm | he
      · exact h.stored node prov alloc hm
      · exact absurd (Prod.mk.inj he).2.symm hr
  · -- a free slot filled, and its caller returned 0
    have hperm := live_set_free (a := n) hfree
    refine ⟨hadmits, fun j m hm => ?_, ?_, ?_⟩
    · rw [hmesh, List.getElem?_set_ne fun he => by rw [he, h.kept j m hm] at hfree; cases hfree]
      exact h.kept j m hm
    · rw [hmesh, hperm.length_eq, List.length_cons, h.count, hcount]
      simp [hr, hp]
      omega
    · intro node prov alloc hm
      rw [hmesh, hperm.mem_iff]
      rcases List.mem_or_eq_of_mem_set hm with hm | he
      · exact List.mem_cons_of_mem _ (h.stored node prov alloc hm)
      · rw [hn node prov alloc (Prod.mk.inj he).1.symm]
        exact List.mem_cons_self _ _

/-- Every schedule keeps the invariant, by induction over the schedule. -/
theorem AdmitInv.run {s0 : BtMesh} {sys : Sys} (h : AdmitInv s0 sys) (sched : List Nat) :
    AdmitInv s0 (Sys.run cfg sys sched) := by
  induction sched generalizing sys with
  | nil => exact h
  | cons k ks ih => exact ih (h.step cfg k)

/-- Under every schedule of concurrent callers that only admit nodes (stores and
provisionings, no `find_reset`), nothing one of them admits is lost: every node in the
registry at the start is still in its slot, the registry holds exactly one node more for
each caller that has returned 0, and each store that has returned 0 has its node in the
registry. The locked block of `provisioner_store_node` fills only a free slot, stale UUID
scans notwithstanding. -/
theorem Sys.run_admissionsKept (s : BtMesh) (calls : List RegCall)
    (hcalls : ∀ c ∈ calls, c.admits = true) (sched : List Nat) :
    (∀ (i : Nat) (n : Node), s.meshNodes[i]? = some (some n) →
      (Sys.run cfg (Sys.init s calls) sched).mesh.meshNodes[i]? = some (some n)) ∧
    (live (Sys.run cfg (Sys.init s calls) sched).mesh.meshNodes).length =
      (live s.meshNodes).length + (Sys.run cfg (Sys.init s calls) sched).callers.countP (·.2 == .done 0) ∧
    ∀ node prov alloc,
      (RegCall.storeNodeInfo (some node) prov alloc, Pc.done 0) ∈ (Sys.run cfg (Sys.init s calls) sched).callers →
        node ∈ live (Sys.run cfg (Sys.init s calls) sched).mesh.meshNodes :=
  have h := (AdmitInv.init s calls hcalls).run cfg sched
  ⟨h.kept, h.count, h.stored⟩

/-- A self-provisioned store of UUID 1 and an outside store of UUID 2, both scanning before
either stores. -/
def admittingCalls : List RegCall :=
  [.storeNodeInfo (some (sampleNode 1 2)) true true, .storeNodeInfo (some (sampleNode 2 3)) false true]

/-- Scheduled scan, scan, store, store, both stores return 0 and the registry, empty at the
start, holds both nodes. -/
theorem Sys.run_admissionsKept_admittingCalls :
    (∀ c ∈ admittingCalls, c.admits = true) ∧
      (Sys.run smallConfig (Sys.init (bootState smallConfig 0 0 []) admittingCalls) [0, 1, 1, 0]).callers.map
        (·.2) = [.done 0, .done 0] ∧
      (live (Sys.run smallConfig (Sys.init (bootState smallConfig 0 0 []) admittingCalls)
        [0, 1, 1, 0]).mesh.meshNodes).length =
        (live (bootState smallConfig 0 0 []).meshNodes).length +
          (Sys.run smallConfig (Sys.init (bootState smallConfig 0 0 []) admittingCalls)
            [0, 1, 1, 0]).callers.countP (·.2 == .done 0) :=
  have hcalls : ∀ c ∈ admittingCalls, c.admits = true := by decide
  ⟨hcalls, by decide,
    (Sys.run_admissionsKept smallConfig _ admittingCalls hcalls [0, 1, 1, 0]).2.1⟩

end BleMeshProvisioner

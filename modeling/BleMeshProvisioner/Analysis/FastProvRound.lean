import BleMeshProvisioner.Analysis.KeyAdd

/-!
# A fast-provisioning round

In fast provisioning the primary provisioner chooses the net index; this node records it with
`bt_mesh_set_fast_prov_net_idx` and then adds the key it is sent with
`bt_mesh_add_fast_prov_net_key`, which pins the net-key cursor to the recorded index, adds the
key at that index and records the key it reads back (`provisioner_main.c:1376-1412`).

Because the add is made with the cursor pinned below 0x1000, the refusal of every add once
the cursor has reached 0x1000 (`KeyAdd.lean`) cannot stop it: for a fresh key, a fresh index
below 0x1000, a free row and collaborators that succeed, the round reports status 0 whatever
the cursor was (`fastProvRound_adds`). It leaves the cursor at the index, which the next
automatic net-key add then skips as used.
-/

set_option autoImplicit false

namespace BleMeshProvisioner

variable (cfg : Config)

/-- `bt_mesh_set_fast_prov_net_idx(n)` writes only the fast-provisioning index, `n`, and key. -/
theorem setFastProvNetIdx_eq (s : BtMesh) (n : Nat) :
    ∃ key, (btMeshSetFastProvNetIdx s n).2 = { s with fastProvNetIdx := n, fastProvNetKey := key } := by
  unfold btMeshSetFastProvNetIdx provisionerSetFastProvNetIdx
  split <;> exact ⟨_, rfl⟩

/-- INTERNAL: A fast-provisioning add whose net-key add, at the recorded index, returns 0 with
that index and whose key reads back as `K` records `K` and that index. -/
theorem addFastProvNetKey_of_add (env : Env) (s : BtMesh) (k : Option Bytes16) {K : Bytes16}
    (h0 : (btMeshProvisionerLocalNetKeyAdd cfg env { s with pNetIdxNext := s.fastProvNetIdx } k
      (some s.fastProvNetIdx)).1 = 0)
    (hi : (btMeshProvisionerLocalNetKeyAdd cfg env { s with pNetIdxNext := s.fastProvNetIdx } k
      (some s.fastProvNetIdx)).2.1 = some s.fastProvNetIdx)
    (hget : btMeshProvisionerLocalNetKeyGet (btMeshProvisionerLocalNetKeyAdd cfg env
      { s with pNetIdxNext := s.fastProvNetIdx } k (some s.fastProvNetIdx)).2.2 s.fastProvNetIdx = some K) :
    btMeshAddFastProvNetKey cfg env s k = (0, { (btMeshProvisionerLocalNetKeyAdd cfg env
      { s with pNetIdxNext := s.fastProvNetIdx } k (some s.fastProvNetIdx)).2.2 with
        fastProvNetIdx := s.fastProvNetIdx, fastProvNetKey := some K }) := by
  simp only [btMeshAddFastProvNetKey, provisionerSetFastProvNetIdx, h0, hi, Option.getD_some, hget,
    ne_eq, not_true_eq_false, if_false]

/-- INTERNAL: Without a node-role subnet of the index, the fast lookup reads the provisioner's
subnet table, as `bt_mesh_provisioner_local_net_key_get` does. -/
theorem getFastProvNetKey_of_localNetKeyGet {s : BtMesh} {n : Nat} {K : Bytes16}
    (hnode : ∀ sub ∈ s.sub, sub.netIdx ≠ n) (h : btMeshProvisionerLocalNetKeyGet s n = some K) :
    btMeshGetFastProvNetKey s n = some K := by
  have hfind : s.sub.find? (·.netIdx == n) = none :=
    List.find?_eq_none.mpr fun sub hsub => by simpa using hnode sub hsub
  unfold btMeshProvisionerLocalNetKeyGet at h
  split_ifs at h
  simpa [btMeshGetFastProvNetKey, getFastProvSubnet, hfind, Option.map_map, Function.comp_def] using h

/-- A fast-provisioning round, `bt_mesh_set_fast_prov_net_idx(n)` then
`bt_mesh_add_fast_prov_net_key(K)`, for a key no occupied subnet row holds in either slot, an
index below 0x1000 no subnet has, a free row and collaborators that succeed, reports status 0
whatever the net-key cursor was. It leaves the cursor at `n`, a subnet with index `n` whose
active key is `K`, and `n` and `K` recorded as the fast-provisioning index and key; the fast
lookup of `n` returns `K` unless the node-role table has a subnet with index `n`. -/
theorem fastProvRound_adds (s : BtMesh) (env : Env) (n : Nat) (K : Bytes16)
    (hK : ∀ sub ∈ live s.pSub, sub.keys0.net ≠ K ∧ sub.keys1.net ≠ K) (hn : n < 0x1000)
    (hfresh : ∀ sub ∈ live s.pSub, sub.netIdx ≠ n) (hfree : none ∈ s.pSub)
    (halloc : env.alloc = true) (hnid : (env.netKeysCreate K).isSome) :
    (btMeshAddFastProvNetKey cfg env (btMeshSetFastProvNetIdx s n).2 (some K)).1 = 0 ∧
      (btMeshAddFastProvNetKey cfg env (btMeshSetFastProvNetIdx s n).2 (some K)).2.pNetIdxNext = n ∧
      (btMeshAddFastProvNetKey cfg env (btMeshSetFastProvNetIdx s n).2 (some K)).2.fastProvNetIdx = n ∧
      (btMeshAddFastProvNetKey cfg env (btMeshSetFastProvNetIdx s n).2 (some K)).2.fastProvNetKey =
        some K ∧
      btMeshProvisionerLocalNetKeyGet
        (btMeshAddFastProvNetKey cfg env (btMeshSetFastProvNetIdx s n).2 (some K)).2 n = some K ∧
      ((∀ sub ∈ s.sub, sub.netIdx ≠ n) → btMeshGetFastProvNetKey
        (btMeshAddFastProvNetKey cfg env (btMeshSetFastProvNetIdx s n).2 (some K)).2 n = some K) := by
  obtain ⟨key, hs1⟩ := setFastProvNetIdx_eq s n
  rw [hs1]
  -- the net-key add at the pinned index
  have ⟨h0, hi, hget⟩ := netKeyAdd_explicit cfg
    (s := { s with fastProvNetIdx := n, fastProvNetKey := key, pNetIdxNext := n }) hn hK hn hfresh hfree halloc hnid
  obtain ⟨-, hcur, -, _, _, _, hw⟩ := netKeyAdd_outcome_log cfg env
    { s with fastProvNetIdx := n, fastProvNetKey := key, pNetIdxNext := n } (some K) (some n)
  rw [addFastProvNetKey_of_add cfg env { s with fastProvNetIdx := n, fastProvNetKey := key }
    (some K) h0 hi hget]
  refine ⟨rfl, ?_, rfl, rfl, hget, fun hnode =>
    getFastProvNetKey_of_localNetKeyGet (fun sub hsub => hnode sub (by rwa [hw] at hsub)) hget⟩
  rcases hcur with h | ⟨h, -⟩
  · exact h
  · exact absurd (Option.some.inj h) (by omega)

/-- From `pinnedStore`, whose net-key cursor an earlier round left at 0x1000, a round at index
7 with the fresh key `testKey 4` reports status 0 and leaves the key readable at 7. -/
theorem fastProvRound_adds_pinnedStore :
    pinnedStore.pNetIdxNext = 0x1000 ∧
      (btMeshAddFastProvNetKey smallConfig (.succeeding (testKey 4))
        (btMeshSetFastProvNetIdx pinnedStore 7).2 (some (testKey 4))).1 = 0 ∧
      btMeshProvisionerLocalNetKeyGet (btMeshAddFastProvNetKey smallConfig (.succeeding (testKey 4))
        (btMeshSetFastProvNetIdx pinnedStore 7).2 (some (testKey 4))).2 7 = some (testKey 4) := by
  obtain ⟨h0, -, -, -, hget, -⟩ := fastProvRound_adds smallConfig pinnedStore
    (.succeeding (testKey 4)) 7 (testKey 4) (by decide) (by decide) (by decide) (by decide) rfl rfl
  exact ⟨by decide, h0, hget⟩

end BleMeshProvisioner

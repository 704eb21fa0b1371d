import BleMeshProvisioner.Analysis.KeyAdd

/-!
# The auto-index loop and the cursor it leaves

An add that asks for index 0xFFFF runs the loop of `provisioner_main.c:859-876` (app keys)
or `:1071-1088` (net keys): from the cursor `bt_mesh.p_*_idx_next` up, it stops at the
first index no occupied row has and leaves the cursor on it, or it climbs to 0x1000 and
returns -EIO. The cursor is advanced in place on every pass of the loop and nothing puts it
back, so an add that fails because every index from the cursor up is in use does not leave
the state as it found it: its cursor is left at 0x1000, and from then on every add of that
table, an explicit index included, returns -EIO (`keyAdd_failure_frame`). The net-key cursor
reaches the top of the range without thousands of keys, since fast provisioning pins it to
any index (`exhaustedAutoNetKeyAdd_moves_cursor`).

With the derivation and the allocation succeeding, an auto-index add of a fresh key for a
live subnet with a free row picks the least free index from the cursor up, or returns -EIO
when there is none (`autoIdxAdd_picks_least_free`).
-/

set_option autoImplicit false

namespace BleMeshProvisioner

variable (cfg : Config)

/-! ## A failed add -/

section Auto

variable {env : Env} {s : BtMesh} {K : Bytes16} {n : Nat}

/-- INTERNAL: An auto-index app-key add that every check before the loop lets through
leaves what the loop leaves. -/
theorem appKeyAdd_auto (hc : s.pAppIdxNext < 0x1000)
    (hK : ∀ k ∈ live s.pAppKeys, k.keys0.val ≠ K ∧ k.keys1.val ≠ K)
    (hn : ∃ sub ∈ live s.pSub, sub.netIdx = n) (hidx : ∀ k ∈ live s.pAppKeys, k.appIdx ≠ 0xFFFF)
    (hfree : none ∈ s.pAppKeys) (halloc : env.alloc = true) (hid : (env.appId K).isSome) :
    AutoIdxOutcome (fun j => ∃ key ∈ live s.pAppKeys, key.appIdx = j) s.pAppIdxNext
      (btMeshProvisionerLocalAppKeyAdd cfg env s (some K) n (some 0xFFFF)).1
      (btMeshProvisionerLocalAppKeyAdd cfg env s (some K) n (some 0xFFFF)).2.1
      (btMeshProvisionerLocalAppKeyAdd cfg env s (some K) n (some 0xFFFF)).2.2.pAppIdxNext := by
  have hck : provisionerCheckAppKey s (some K) = none := checkKey_eq_none_iff.mpr hK
  have hnet : provisionerCheckNetIdx s n false = 0 := checkIdx_false_eq_zero.mpr hn
  have hfresh : provisionerCheckAppIdx s 0xFFFF true = 0 := checkIdx_true_eq_zero.mpr hidx
  obtain ⟨aid, haid⟩ := Option.isSome_iff_exists.mp hid
  obtain ⟨add, hadd⟩ := firstFreeIn_of_none_mem hfree
  have hadd' : provisionerCheckAppKeyFull s = some add := hadd
  simp only [btMeshProvisionerLocalAppKeyAdd, not_le.mpr hc, if_false, hck, hnet, hfresh, hadd',
    halloc, haid, ne_eq, not_true_eq_false, false_and, Bool.not_true, Bool.false_eq_true]
  rcases hl : idxAlloc (fun i => provisionerCheckAppIdx s i true ≠ 0) s.pAppIdxNext
    (0x1000 - s.pAppIdxNext) with ⟨c', _ | i⟩
  · exact autoIdxOutcome_of_none hc hl
  · exact autoIdxOutcome_of_some hc hl

/-- INTERNAL: An auto-index net-key add that every check before the loop lets through
leaves what the loop leaves. -/
theorem netKeyAdd_auto (hc : s.pNetIdxNext < 0x1000)
    (hK : ∀ sub ∈ live s.pSub, sub.keys0.net ≠ K ∧ sub.keys1.net ≠ K)
    (hidx : ∀ sub ∈ live s.pSub, sub.netIdx ≠ 0xFFFF) (hfree : none ∈ s.pSub)
    (halloc : env.alloc = true) (hnid : (env.netKeysCreate K).isSome) :
    AutoIdxOutcome (fun j => ∃ sub ∈ live s.pSub, sub.netIdx = j) s.pNetIdxNext
      (btMeshProvisionerLocalNetKeyAdd cfg env s (some K) (some 0xFFFF)).1
      (btMeshProvisionerLocalNetKeyAdd cfg env s (some K) (some 0xFFFF)).2.1
      (btMeshProvisionerLocalNetKeyAdd cfg env s (some K) (some 0xFFFF)).2.2.pNetIdxNext := by
  have hck : provisionerCheckNetKey s (some K) = none := checkKey_eq_none_iff.mpr hK
  have hfresh : provisionerCheckNetIdx s 0xFFFF true = 0 := checkIdx_true_eq_zero.mpr hidx
  obtain ⟨nid, hnid⟩ := Option.isSome_iff_exists.mp hnid
  obtain ⟨add, hadd⟩ := firstFreeIn_of_none_mem hfree
  have hadd' : provisionerCheckNetKeyFull s = some add := hadd
  simp only [btMeshProvisionerLocalNetKeyAdd, not_le.mpr hc, if_false, hck, hfresh, hadd',
    halloc, hnid, ne_eq, not_true_eq_false, false_and, Bool.not_true, Bool.false_eq_true]
  rcases hl : idxAlloc (fun i => provisionerCheckNetIdx s i true ≠ 0) s.pNetIdxNext
    (0x1000 - s.pNetIdxNext) with ⟨c', _ | i⟩
  · exact autoIdxOutcome_of_none hc hl
  · exact autoIdxOutcome_of_some hc hl

end Auto

/-- With the derivation and the allocation succeeding, an auto-index add of a key no
occupied row holds in either slot, into a table with a free row and, for an app key, for a
live subnet, from a store that keeps the key-store invariant and has its cursor `c` below
0x1000, returns 0 exactly when some index from `c` to 0xFFF is free. It then reports the
least such index, leaves the cursor on it, and writes the key with that index into a free
row; otherwise it returns -EIO. -/
theorem autoIdxAdd_picks_least_free (env : Env) (s : BtMesh) (K : Bytes16) (n : Nat)
    (hinv : KeyStoreInv s) (halloc : env.alloc = true) :
    (s.pAppIdxNext < 0x1000 → (∀ k ∈ live s.pAppKeys, k.keys0.val ≠ K ∧ k.keys1.val ≠ K) →
      (∃ sub ∈ live s.pSub, sub.netIdx = n) → none ∈ s.pAppKeys → (env.appId K).isSome →
      ∀ e ri s', btMeshProvisionerLocalAppKeyAdd cfg env s (some K) n (some 0xFFFF) = (e, ri, s') →
        (e = 0 ↔ ∃ i, s.pAppIdxNext ≤ i ∧ i < 0x1000 ∧ ¬∃ key ∈ live s.pAppKeys, key.appIdx = i) ∧
        AutoIdxOutcome (fun j => ∃ key ∈ live s.pAppKeys, key.appIdx = j) s.pAppIdxNext e ri
          s'.pAppIdxNext ∧
        (e = 0 → ∃ i add aid, ri = some i ∧ s.pAppKeys[add]? = some none ∧
          s'.pAppKeys = s.pAppKeys.set add (some ⟨n, i, false, ⟨aid, K⟩, AppKeys.zero⟩))) ∧
    (s.pNetIdxNext < 0x1000 → (∀ sub ∈ live s.pSub, sub.keys0.net ≠ K ∧ sub.keys1.net ≠ K) →
      none ∈ s.pSub → (env.netKeysCreate K).isSome →
      ∀ e ri s', btMeshProvisionerLocalNetKeyAdd cfg env s (some K) (some 0xFFFF) = (e, ri, s') →
        (e = 0 ↔ ∃ i, s.pNetIdxNext ≤ i ∧ i < 0x1000 ∧ ¬∃ sub ∈ live s.pSub, sub.netIdx = i) ∧
        AutoIdxOutcome (fun j => ∃ sub ∈ live s.pSub, sub.netIdx = j) s.pNetIdxNext e ri
          s'.pNetIdxNext ∧
        (e = 0 → ∃ i add nid, ri = some i ∧ s.pSub[add]? = some none ∧
          s'.pSub = s.pSub.set add (some ⟨i, ⟨K, nid⟩, SubnetKeys.zero, false, bleMeshKrNormal,
            bleMeshNodeIdentityNotSupported⟩))) := by
  constructor
  · intro hc hK hn hfree hid e ri s' h
    have hloop := appKeyAdd_auto cfg hc hK hn
      (fun k hk => by have := hinv.appKeys.1 k hk; omega) hfree halloc hid
    have hout := appKeyAdd_outcome cfg env s (some K) n (some 0xFFFF)
    rw [h] at hloop hout
    refine ⟨hloop.eq_zero_iff, hloop, fun h0 => ?_⟩
    rcases hout with ⟨h1, -⟩ | ⟨-, -, i, hi, -⟩ |
        ⟨-, -, -, add, i, pKey, aid, hadd, -, -, -, hK', hri, hkeys, -⟩
    · exact absurd h0 h1
    · have hck : provisionerCheckAppKey s (some K) = none := checkKey_eq_none_iff.mpr hK
      simp [hck] at hi
    · exact ⟨i, add, aid, hri, (firstFreeIn_eq_some.mp hadd).2.2.1, hK' K rfl ▸ hkeys⟩
  · intro hc hK hfree hnid e ri s' h
    have hloop := netKeyAdd_auto cfg hc hK
      (fun sub hs => by have := hinv.subnets.1 sub hs; omega) hfree halloc hnid
    have hout := netKeyAdd_outcome cfg env s (some K) (some 0xFFFF)
    rw [h] at hloop hout
    refine ⟨hloop.eq_zero_iff, hloop, fun h0 => ?_⟩
    rcases hout with ⟨h1, -⟩ | ⟨-, -, i, hi, -⟩ |
        ⟨-, -, add, i, pKey, nid, hadd, -, -, -, hK', hri, hsub, -⟩
    · exact absurd h0 h1
    · have hck : provisionerCheckNetKey s (some K) = none := checkKey_eq_none_iff.mpr hK
      simp [hck] at hi
    · exact ⟨i, add, nid, hri, (firstFreeIn_eq_some.mp hadd).2.2.1, hK' K rfl ▸ hsub⟩

/-- The auto-index add of key `testKey 3` to the app-key table of `createdStore`, bound to
subnet 0. -/
def createdAutoAppAdd : Int × Option Nat × BtMesh :=
  btMeshProvisionerLocalAppKeyAdd smallConfig (.succeeding (testKey 3)) createdStore
    (some (testKey 3)) 0 (some 0xFFFF)

/-- The auto-index add of key `testKey 3` to the net-key table of `createdStore`. -/
def createdAutoNetAdd : Int × Option Nat × BtMesh :=
  btMeshProvisionerLocalNetKeyAdd smallConfig (.succeeding (testKey 3)) createdStore
    (some (testKey 3)) (some 0xFFFF)

/-- On `createdStore`, with collaborators that succeed, auto-index adds of `testKey 3` meet
every hypothesis; they take index 0 for the app key and index 1 for the subnet. -/
theorem autoIdxAdd_least_free_createdStore :
    KeyStoreInv createdStore ∧ createdAutoAppAdd.2.1 = some 0 ∧ createdAutoNetAdd.2.1 = some 1 ∧
      AutoIdxOutcome (fun j => ∃ key ∈ live createdStore.pAppKeys, key.appIdx = j)
        createdStore.pAppIdxNext createdAutoAppAdd.1 createdAutoAppAdd.2.1
        createdAutoAppAdd.2.2.pAppIdxNext ∧
      AutoIdxOutcome (fun j => ∃ sub ∈ live createdStore.pSub, sub.netIdx = j)
        createdStore.pNetIdxNext createdAutoNetAdd.1 createdAutoNetAdd.2.1
        createdAutoNetAdd.2.2.pNetIdxNext :=
  have hinv : KeyStoreInv createdStore := by decide
  have h := autoIdxAdd_picks_least_free smallConfig (.succeeding (testKey 3)) createdStore
    (testKey 3) 0 hinv rfl
  ⟨hinv, by decide, by decide,
    (h.1 (by decide) (by decide) (by decide) (by decide) rfl _ _ _ rfl).2.1,
    (h.2 (by decide) (by decide) (by decide) rfl _ _ _ rfl).2.1⟩

/-- The allocation of the new row failing: on a reachable store whose app-key cursor is 0,
with a key no row holds, a live subnet 0, a free row, index 0 free and a derivation that
succeeds, the auto-index add returns -ENOMEM. -/
theorem autoAppKeyAdd_alloc_failure :
    KeyReachable smallConfig createdStore ∧ createdStore.pAppIdxNext = 0 ∧
      (∀ k ∈ live createdStore.pAppKeys, k.keys0.val ≠ testKey 3 ∧ k.keys1.val ≠ testKey 3) ∧
      (∃ sub ∈ live createdStore.pSub, sub.netIdx = 0) ∧ none ∈ createdStore.pAppKeys ∧
      (¬∃ key ∈ live createdStore.pAppKeys, key.appIdx = 0) ∧
      (btMeshProvisionerLocalAppKeyAdd smallConfig ⟨some (testKey 3), false, fun _ => some 0,
        fun _ => some 0⟩ createdStore (some (testKey 3)) 0 (some 0xFFFF)).1 = -enomem :=
  ⟨.step (.netCreate _ _ _) (.init (keyStoreInit_bootState _ 2 2 (by decide))) rfl,
    by decide, by decide, by decide, by decide, by decide, by decide⟩

end BleMeshProvisioner

import BleMeshProvisioner.Analysis.KeyInvariant

/-!
# What a successful add leaves

`bt_mesh_provisioner_local_app_key_add` and `bt_mesh_provisioner_local_net_key_add`
(`provisioner_main.c:794-887`, `:1016-1101`) first compare the key with both slots of every
occupied row, and return 0 with the index of the first row holding it: before the app-key
add checks its subnet, and whether the slot is the active one or not. A successful add is
therefore that early return, which changes nothing, or an insertion that makes the key the
active key of a new row, the only row holding it (`appKeyAdd_success_spec`,
`netKeyAdd_success_spec`). Either way the same add repeated reports the same index.

Both adds also refuse every call, an explicit index included, once the auto-index cursor
has reached 0x1000; the fast-provisioning path pins the net-key cursor to any index it is
given. Below 0x1000 an explicit add with a fresh key, a fresh index and a free row succeeds
(`explicitIdxAdd_succeeds`).
-/

set_option autoImplicit false

namespace BleMeshProvisioner

variable (cfg : Config)

/-! ## Tables after one insertion -/

section Tables

variable {α : Type}

/-- INTERNAL: A scan for a property no occupied row had finds a row written into a free
row. -/
theorem findRow_set_free {p : α → Bool} {t : List (Option α)} {add : Nat} {a : α}
    (hfree : t[add]? = some none) (hp : p a = true) (hold : ∀ b ∈ live t, p b = false) :
    findRow p (t.set add (some a)) = some (add, a) :=
  findRow_of_first (by simp [(List.getElem?_eq_some_iff.mp hfree).1]) hp fun j b hj hb =>
    hold b (mem_live.mpr (List.mem_iff_getElem?.mpr ⟨j, by
      rwa [List.getElem?_set_ne (Nat.ne_of_gt hj)] at hb⟩))

/-- The duplicate-key check of a key finds nothing exactly when no live row holds it in
either slot. -/
theorem checkKey_eq_none_iff {key0 key1 : α → Bytes16} {idxOf : α → Nat}
    {t : List (Option α)} {K : Bytes16} :
    checkKey key0 key1 idxOf t (some K) = none ↔ ∀ a ∈ live t, key0 a ≠ K ∧ key1 a ≠ K := by
  simp [checkKey, findRow_eq_none, not_or]

/-- INTERNAL: A key no occupied row held is found, once written into a free row, there. -/
theorem checkKey_set_free {key0 key1 : α → Bytes16} {idxOf : α → Nat} {t : List (Option α)}
    {add : Nat} {a : α} {K : Bytes16} (hnone : checkKey key0 key1 idxOf t (some K) = none)
    (hfree : t[add]? = some none) (ha : key0 a = K) :
    checkKey key0 key1 idxOf (t.set add (some a)) (some K) = some (idxOf a) := by
  have hold := checkKey_eq_none_iff.mp hnone
  simp only [checkKey, Option.some_bind]
  rw [findRow_set_free hfree (by simp [ha]) fun b hb => by simpa using hold b hb]
  rfl

/-- INTERNAL: Which occupied rows hold a key after it is written into a free row of a table
where no occupied row held it: the new row alone. -/
theorem holds_set_free_iff {key0 key1 : α → Bytes16} {idxOf : α → Nat} {t : List (Option α)}
    {add : Nat} {a : α} {K : Bytes16} (hnone : checkKey key0 key1 idxOf t (some K) = none)
    (hfree : t[add]? = some none) (ha : key0 a = K) (hnew : ∀ b ∈ live t, idxOf b ≠ idxOf a) :
    ∀ b ∈ live (t.set add (some a)), (key0 b = K ∨ key1 b = K) ↔ idxOf b = idxOf a := by
  intro b hb
  rcases List.mem_cons.mp ((live_set_free hfree).mem_iff.mp hb) with rfl | hb
  · simp [ha]
  · have := checkKey_eq_none_iff.mp hnone b hb
    simp only [this.1, this.2, false_or, false_iff]
    exact hnew b hb

/-- INTERNAL: A table with a NULL row has a first one. -/
theorem firstFreeIn_of_none_mem {t : List (Option α)} (h : none ∈ t) :
    ∃ add, firstFreeIn t 0 t.length = some add := by
  rw [← Option.isSome_iff_exists, Option.isSome_iff_ne_none, Ne, firstFreeIn_eq_none]
  obtain ⟨j, hj⟩ := List.mem_iff_getElem?.mp h
  exact fun hall => absurd (rowFree_iff.mpr hj)
    (by simp [hall j (Nat.zero_le j) (List.getElem?_eq_some_iff.mp hj).1])

end Tables

/-! ## The early returns -/

section Adds

variable {env : Env} {s : BtMesh} {K : Bytes16} {n r : Nat}

/-- Once the app-key cursor is at 0x1000 or above, every app-key add, an explicit index
included, returns -EIO at its first check, reports the caller's index back and changes
nothing. -/
theorem appKeyAdd_of_cursor_top (hc : 0x1000 ≤ s.pAppIdxNext) (key : Option Bytes16)
    (ri : Option Nat) : btMeshProvisionerLocalAppKeyAdd cfg env s key n ri = (-eio, ri, s) := by
  unfold btMeshProvisionerLocalAppKeyAdd
  rw [if_pos hc]

/-- Once the net-key cursor is at 0x1000 or above, every net-key add, an explicit index
included, returns -EIO at its first check, reports the caller's index back and changes
nothing. -/
theorem netKeyAdd_of_cursor_top (hc : 0x1000 ≤ s.pNetIdxNext) (key : Option Bytes16)
    (ri : Option Nat) : btMeshProvisionerLocalNetKeyAdd cfg env s key ri = (-eio, ri, s) := by
  unfold btMeshProvisionerLocalNetKeyAdd
  rw [if_pos hc]

/-- An app-key add that returns 0 found the cursor below 0x1000. -/
theorem appKeyAdd_cursor_lt {key : Option Bytes16} {ri : Option Nat}
    (h : (btMeshProvisionerLocalAppKeyAdd cfg env s key n ri).1 = 0) : s.pAppIdxNext < 0x1000 := by
  by_contra hc
  rw [appKeyAdd_of_cursor_top cfg (not_lt.mp hc)] at h
  exact neg_eio_ne_zero h

/-- A net-key add that returns 0 found the cursor below 0x1000. -/
theorem netKeyAdd_cursor_lt {key : Option Bytes16} {ri : Option Nat}
    (h : (btMeshProvisionerLocalNetKeyAdd cfg env s key ri).1 = 0) : s.pNetIdxNext < 0x1000 := by
  by_contra hc
  rw [netKeyAdd_of_cursor_top cfg (not_lt.mp hc)] at h
  exact neg_eio_ne_zero h

/-- With the cursor below 0x1000 and a valid requested index, an app-key add of a key held
by some occupied row returns 0 with that row's index and changes nothing, whatever the
subnet and the collaborators. -/
theorem appKeyAdd_of_held {key : Option Bytes16} {i : Nat} (hc : s.pAppIdxNext < 0x1000)
    (hr : r = 0xFFFF ∨ r < 0x1000) (hk : provisionerCheckAppKey s key = some i) :
    btMeshProvisionerLocalAppKeyAdd cfg env s key n (some r) = (0, some i, s) := by
  have : ¬(r ≠ 0xFFFF ∧ 0x1000 ≤ r) := by omega
  simp [btMeshProvisionerLocalAppKeyAdd, not_le.mpr hc, this, hk]

/-- A net-key add of a key some row already holds, with the cursor below 0x1000 and a
valid requested index, returns 0 and that row's index and changes nothing. -/
theorem netKeyAdd_of_held {key : Option Bytes16} {i : Nat} (hc : s.pNetIdxNext < 0x1000)
    (hr : r = 0xFFFF ∨ r < 0x1000) (hk : provisionerCheckNetKey s key = some i) :
    btMeshProvisionerLocalNetKeyAdd cfg env s key (some r) = (0, some i, s) := by
  have : ¬(r ≠ 0xFFFF ∧ 0x1000 ≤ r) := by omega
  simp [btMeshProvisionerLocalNetKeyAdd, not_le.mpr hc, this, hk]

/-- INTERNAL: Once an app key bound to a live subnet, with an index no occupied row had, is
written into a free row, the get for its two indices returns its active key. -/
theorem appKeyGet_set_free {s' : BtMesh} {add : Nat} {key : AppKey}
    (hfree : s.pAppKeys[add]? = some none) (hnet : ∃ sub ∈ live s.pSub, sub.netIdx = key.netIdx)
    (hnew : ∀ b ∈ live s.pAppKeys, b.appIdx ≠ key.appIdx) (hsub : s'.pSub = s.pSub)
    (hkeys : s'.pAppKeys = s.pAppKeys.set add (some key)) :
    btMeshProvisionerLocalAppKeyGet s' key.netIdx key.appIdx =
      some (if key.updated then key.keys1.val else key.keys0.val) := by
  have hlive : key ∈ live s'.pAppKeys :=
    hkeys ▸ (live_set_free hfree).mem_iff.mpr (List.mem_cons_self _ _)
  have h1 : provisionerCheckNetIdx s' key.netIdx false = 0 :=
    checkIdx_false_eq_zero.mpr (hsub ▸ hnet)
  have h2 : provisionerCheckAppIdx s' key.appIdx false = 0 := checkIdx_false_eq_zero.mpr ⟨key, hlive, rfl⟩
  simp only [btMeshProvisionerLocalAppKeyGet, h1, h2, ne_eq, not_true_eq_false, if_false, hkeys]
  rw [findRow_set_free (p := fun k => k.netIdx == key.netIdx && k.appIdx == key.appIdx) hfree
    (by simp) fun b hb => by simp [hnew b hb]]
  rfl

/-- INTERNAL: Once a subnet with an index no occupied row had is written into a free row,
the get for its index returns its active key. -/
theorem netKeyGet_set_free {s' : BtMesh} {add : Nat} {sub : Subnet}
    (hfree : s.pSub[add]? = some none) (hnew : ∀ b ∈ live s.pSub, b.netIdx ≠ sub.netIdx)
    (hsub : s'.pSub = s.pSub.set add (some sub)) :
    btMeshProvisionerLocalNetKeyGet s' sub.netIdx =
      some (if sub.krFlag then sub.keys1.net else sub.keys0.net) := by
  have hlive : sub ∈ live s'.pSub :=
    hsub ▸ (live_set_free hfree).mem_iff.mpr (List.mem_cons_self _ _)
  have h1 : provisionerCheckNetIdx s' sub.netIdx false = 0 := checkIdx_false_eq_zero.mpr ⟨sub, hlive, rfl⟩
  simp only [btMeshProvisionerLocalNetKeyGet, h1, ne_eq, not_true_eq_false, if_false, hsub]
  rw [findRow_set_free (p := (·.netIdx == sub.netIdx)) hfree (by simp) fun b hb => by
    simp [hnew b hb]]
  rfl

/-! ## Concrete stores -/

/-- The key store after the network is created with key `testKey 1`, on a provisioner with
two subnet rows and two app-key rows. -/
def createdStore : BtMesh :=
  (btMeshProvisionerNetCreate smallConfig (.succeeding (testKey 1)) (bootState smallConfig 2 2 [])
    true (some ⟨1, 0, 0⟩)).2

/-- `createdStore` with a second subnet, index 1 and key `testKey 2`, and an app key
`testKey 3` bound to subnet 0 at the next free index, 0. -/
def twoNetStore : BtMesh :=
  (btMeshProvisionerLocalAppKeyAdd smallConfig (.succeeding (testKey 3))
    (btMeshProvisionerLocalNetKeyAdd smallConfig (.succeeding (testKey 2)) createdStore
      (some (testKey 2)) (some 1)).2.2
    (some (testKey 3)) bleMeshKeyPrimary (some 0xFFFF)).2.2

/-- `createdStore` after the fast-provisioning index is set to 0x1000 and a fast
provisioning net key is then added, which pins the net-key cursor there and fails. -/
def pinnedStore : BtMesh :=
  (btMeshAddFastProvNetKey smallConfig (.succeeding (testKey 2))
    (btMeshSetFastProvNetIdx createdStore 0x1000).2 (some (testKey 2))).2

/-! ## Successful adds -/

/-- A successful app-key add either found the key already held, in either slot, by an
occupied row, bound to whatever subnet, changed nothing and reported the first such row's
index; or wrote a new app key bound to `n` with the key active, the only row holding the
key. Either way the add repeated, for any subnet and any valid requested index, reports
the same index and changes nothing. -/
theorem appKeyAdd_success_spec {ri : Option Nat} {s' : BtMesh}
    (h : btMeshProvisionerLocalAppKeyAdd cfg env s (some K) n (some r) = (0, ri, s')) :
    ∃ i, ri = some i ∧
      ((provisionerCheckAppKey s (some K) = some i ∧ s' = s) ∨
        (btMeshProvisionerLocalAppKeyGet s' n i = some K ∧
          ∀ k ∈ live s'.pAppKeys, (k.keys0.val = K ∨ k.keys1.val = K) ↔ k.appIdx = i)) ∧
      ∀ (env' : Env) (n' r' : Nat), (r' = 0xFFFF ∨ r' < 0x1000) →
        btMeshProvisionerLocalAppKeyAdd cfg env' s' (some K) n' (some r') = (0, some i, s') := by
  have hc := appKeyAdd_cursor_lt cfg (congrArg Prod.fst h)
  have ho := appKeyAdd_outcome cfg env s (some K) n (some r)
  rw [h] at ho
  dsimp only [AppKeyAddOutcome] at ho
  rcases ho with ⟨h1, -, -⟩ | ⟨-, rfl, i, hi, rfl⟩ |
      ⟨-, hck, hnet, add, i, pKey, aid, hadd, -, hnew, -, hK, rfl, hkeys, hsub, -, hc'⟩
  · exact absurd rfl h1
  · exact ⟨i, rfl, .inl ⟨hi, rfl⟩, fun _ _ _ hr' => appKeyAdd_of_held cfg hc hr' hi⟩
  obtain rfl := hK K rfl
  have hfree := (firstFreeIn_eq_some.mp hadd).2.2.1
  have hget := appKeyGet_set_free hfree hnet hnew hsub hkeys
  refine ⟨i, rfl, .inr ⟨hget, ?_⟩,
    fun _ _ _ hr' => appKeyAdd_of_held cfg hc' hr' ?_⟩
  · rw [hkeys]
    exact holds_set_free_iff hck hfree rfl hnew
  · simp only [provisionerCheckAppKey, hkeys]
    exact checkKey_set_free hck hfree (by rfl)

/-- The app-key success theorem at a re-add of the app key row 0 of twoNetStore holds:
the add returns 0 with index 0 and changes nothing. -/
theorem appKeyAdd_success_spec_twoNetStore :
    btMeshProvisionerLocalAppKeyAdd smallConfig (.succeeding (testKey 3)) twoNetStore
        (some (testKey 3)) 1 (some 0xFFFF) = (0, some 0, twoNetStore) ∧
      ∃ i, some 0 = some i ∧
        ((provisionerCheckAppKey twoNetStore (some (testKey 3)) = some i ∧
            twoNetStore = twoNetStore) ∨
          (btMeshProvisionerLocalAppKeyGet twoNetStore 1 i = some (testKey 3) ∧
            ∀ k ∈ live twoNetStore.pAppKeys,
              (k.keys0.val = testKey 3 ∨ k.keys1.val = testKey 3) ↔ k.appIdx = i)) ∧
        ∀ (env' : Env) (n' r' : Nat), (r' = 0xFFFF ∨ r' < 0x1000) →
          btMeshProvisionerLocalAppKeyAdd smallConfig env' twoNetStore (some (testKey 3)) n'
            (some r') = (0, some i, twoNetStore) :=
  have h : btMeshProvisionerLocalAppKeyAdd smallConfig (.succeeding (testKey 3)) twoNetStore
      (some (testKey 3)) 1 (some 0xFFFF) = (0, some 0, twoNetStore) := by decide
  ⟨h, appKeyAdd_success_spec smallConfig h⟩

/-- Adding, for subnet 1, the key an app key bound to subnet 0 holds returns 0 and that
key's index, 0, under which the get for subnet 1 finds nothing. -/
theorem appKeyAdd_held_on_other_net :
    KeyStoreInv twoNetStore ∧
      btMeshProvisionerLocalAppKeyAdd smallConfig (.succeeding (testKey 3)) twoNetStore
        (some (testKey 3)) 1 (some 0xFFFF) = (0, some 0, twoNetStore) ∧
      btMeshProvisionerLocalAppKeyGet twoNetStore 1 0 = none :=
  ⟨by decide, by decide, by decide⟩

/-- A successful net-key add either found the key already held, in either slot, by an
occupied row, changed nothing and reported the first such row's index; or wrote a new
subnet with the key active, the only row holding the key. Either way the add repeated, for
any valid requested index, reports the same index and changes nothing. -/
theorem netKeyAdd_success_spec {ri : Option Nat} {s' : BtMesh}
    (h : btMeshProvisionerLocalNetKeyAdd cfg env s (some K) (some r) = (0, ri, s')) :
    ∃ i, ri = some i ∧
      ((provisionerCheckNetKey s (some K) = some i ∧ s' = s) ∨
        (btMeshProvisionerLocalNetKeyGet s' i = some K ∧
          ∀ sub ∈ live s'.pSub, (sub.keys0.net = K ∨ sub.keys1.net = K) ↔ sub.netIdx = i)) ∧
      ∀ (env' : Env) (r' : Nat), (r' = 0xFFFF ∨ r' < 0x1000) →
        btMeshProvisionerLocalNetKeyAdd cfg env' s' (some K) (some r') = (0, some i, s') := by
  have hc := netKeyAdd_cursor_lt cfg (congrArg Prod.fst h)
  have ho := netKeyAdd_outcome cfg env s (some K) (some r)
  rw [h] at ho
  dsimp only [NetKeyAddOutcome] at ho
  rcases ho with ⟨h1, -, -⟩ | ⟨-, rfl, i, hi, rfl⟩ |
      ⟨-, hck, add, i, pKey, nid, hadd, -, hnew, -, hK, rfl, hsub, -, -, hc'⟩
  · exact absurd rfl h1
  · exact ⟨i, rfl, .inl ⟨hi, rfl⟩, fun _ _ hr' => netKeyAdd_of_held cfg hc hr' hi⟩
  obtain rfl := hK K rfl
  have hfree := (firstFreeIn_eq_some.mp hadd).2.2.1
  have hget := netKeyGet_set_free hfree hnew hsub
  refine ⟨i, rfl, .inr ⟨hget, ?_⟩,
    fun _ _ hr' => netKeyAdd_of_held cfg hc' hr' ?_⟩
  · rw [hsub]
    exact holds_set_free_iff hck hfree rfl hnew
  · simp only [provisionerCheckNetKey, hsub]
    exact checkKey_set_free hck hfree (by rfl)

/-- The net-key success theorem at an add of the all-zero key to createdStore: the
primary subnet's unused second slot holds zeros, so the add returns 0 with index 0 and
changes nothing. -/
theorem netKeyAdd_success_spec_createdStore :
    btMeshProvisionerLocalNetKeyAdd smallConfig (.succeeding Bytes16.zero) createdStore
        (some Bytes16.zero) (some 0xFFFF) = (0, some 0, createdStore) ∧
      ∃ i, some 0 = some i ∧
        ((provisionerCheckNetKey createdStore (some Bytes16.zero) = some i ∧
            createdStore = createdStore) ∨
          (btMeshProvisionerLocalNetKeyGet createdStore i = some Bytes16.zero ∧
            ∀ sub ∈ live createdStore.pSub,
              (sub.keys0.net = Bytes16.zero ∨ sub.keys1.net = Bytes16.zero) ↔ sub.netIdx = i)) ∧
        ∀ (env' : Env) (r' : Nat), (r' = 0xFFFF ∨ r' < 0x1000) →
          btMeshProvisionerLocalNetKeyAdd smallConfig env' createdStore (some Bytes16.zero)
            (some r') = (0, some i, createdStore) :=
  have h : btMeshProvisionerLocalNetKeyAdd smallConfig (.succeeding Bytes16.zero) createdStore
      (some Bytes16.zero) (some 0xFFFF) = (0, some 0, createdStore) := by decide
  ⟨h, netKeyAdd_success_spec smallConfig h⟩

/-- Adding the all-zero key right after the network is created returns 0 and the primary
subnet's index: the key matches the subnet's unused, zeroed second slot, while its active
key is `testKey 1` and it is in the normal phase. -/
theorem netKeyAdd_zero_key_matches_unused_slot :
    KeyStoreInv createdStore ∧
      btMeshProvisionerLocalNetKeyAdd smallConfig (.succeeding Bytes16.zero) createdStore
        (some Bytes16.zero) (some 0xFFFF) = (0, some 0, createdStore) ∧
      btMeshProvisionerLocalNetKeyGet createdStore 0 = some (testKey 1) ∧
      testKey 1 ≠ Bytes16.zero ∧ ∀ sub ∈ live createdStore.pSub, sub.krPhase = bleMeshKrNormal :=
  ⟨by decide, by decide, by decide, by decide, by decide⟩

/-- INTERNAL: An explicit-index app-key add that every check lets through returns 0 and
stores the key at the index. -/
theorem appKeyAdd_explicit (hc : s.pAppIdxNext < 0x1000)
    (hK : ∀ k ∈ live s.pAppKeys, k.keys0.val ≠ K ∧ k.keys1.val ≠ K)
    (hn : ∃ sub ∈ live s.pSub, sub.netIdx = n) (hr : r < 0x1000)
    (hfresh : ∀ k ∈ live s.pAppKeys, k.appIdx ≠ r) (hfree : none ∈ s.pAppKeys)
    (halloc : env.alloc = true) (hid : (env.appId K).isSome) :
    (btMeshProvisionerLocalAppKeyAdd cfg env s (some K) n (some r)).1 = 0 ∧
      (btMeshProvisionerLocalAppKeyAdd cfg env s (some K) n (some r)).2.1 = some r ∧
      btMeshProvisionerLocalAppKeyGet
        (btMeshProvisionerLocalAppKeyAdd cfg env s (some K) n (some r)).2.2 n r = some K := by
  have hck : provisionerCheckAppKey s (some K) = none := checkKey_eq_none_iff.mpr hK
  have h0 : (btMeshProvisionerLocalAppKeyAdd cfg env s (some K) n (some r)).1 = 0 := by
    obtain ⟨aid, haid⟩ := Option.isSome_iff_exists.mp hid
    obtain ⟨add, hadd⟩ := firstFreeIn_of_none_mem hfree
    simp [btMeshProvisionerLocalAppKeyAdd, not_le.mpr hc, hck,
      checkIdx_false_eq_zero.mpr hn, checkIdx_true_eq_zero.mpr hfresh, provisionerCheckNetIdx,
      provisionerCheckAppIdx, provisionerCheckAppKeyFull, hadd, halloc, haid, not_le.mpr hr,
      show r ≠ 0xFFFF by omega]
  rcases appKeyAdd_outcome cfg env s (some K) n (some r) with ⟨h1, -, -⟩ | ⟨-, -, i, hi, -⟩ |
      ⟨-, -, hnet, add, i, pKey, aid, hadd, -, hnew, hri, hK', hres, hkeys, hsub, -, -⟩
  · exact absurd h0 h1
  · simp [hck] at hi
  obtain rfl := hri r rfl (by omega)
  obtain rfl := hK' K rfl
  have hget := appKeyGet_set_free (firstFreeIn_eq_some.mp hadd).2.2.1 hnet hnew hsub hkeys
  exact ⟨h0, hres, hget⟩

/-- INTERNAL: An explicit-index net-key add that every check lets through returns 0 and
stores the key at the index. -/
theorem netKeyAdd_explicit (hc : s.pNetIdxNext < 0x1000)
    (hK : ∀ sub ∈ live s.pSub, sub.keys0.net ≠ K ∧ sub.keys1.net ≠ K) (hr : r < 0x1000)
    (hfresh : ∀ sub ∈ live s.pSub, sub.netIdx ≠ r) (hfree : none ∈ s.pSub)
    (halloc : env.alloc = true) (hnid : (env.netKeysCreate K).isSome) :
    (btMeshProvisionerLocalNetKeyAdd cfg env s (some K) (some r)).1 = 0 ∧
      (btMeshProvisionerLocalNetKeyAdd cfg env s (some K) (some r)).2.1 = some r ∧
      btMeshProvisionerLocalNetKeyGet
        (btMeshProvisionerLocalNetKeyAdd cfg env s (some K) (some r)).2.2 r = some K := by
  have hck : provisionerCheckNetKey s (some K) = none := checkKey_eq_none_iff.mpr hK
  have h0 : (btMeshProvisionerLocalNetKeyAdd cfg env s (some K) (some r)).1 = 0 := by
    obtain ⟨nid, hnid⟩ := Option.isSome_iff_exists.mp hnid
    obtain ⟨add, hadd⟩ := firstFreeIn_of_none_mem hfree
    simp [btMeshProvisionerLocalNetKeyAdd, not_le.mpr hc, hck,
      checkIdx_true_eq_zero.mpr hfresh, provisionerCheckNetIdx, provisionerCheckNetKeyFull, hadd,
      halloc, hnid, not_le.mpr hr, show r ≠ 0xFFFF by omega]
  rcases netKeyAdd_outcome cfg env s (some K) (some r) with ⟨h1, -, -⟩ | ⟨-, -, i, hi, -⟩ |
      ⟨-, -, add, i, pKey, nid, hadd, -, hnew, hri, hK', hres, hsub, -, -, -⟩
  · exact absurd h0 h1
  · simp [hck] at hi
  obtain rfl := hri r rfl (by omega)
  obtain rfl := hK' K rfl
  have hget := netKeyGet_set_free (firstFreeIn_eq_some.mp hadd).2.2.1 hnew hsub
  exact ⟨h0, hres, hget⟩

/-- With both auto-index cursors below 0x1000, an app-key add and a net-key add of a key no
occupied row holds in either slot, at an explicit index below 0x1000 no occupied row has,
for a live subnet, with a free row and collaborators that succeed, return 0 and store the
key at that index. -/
theorem explicitIdxAdd_succeeds (hcApp : s.pAppIdxNext < 0x1000) (hcNet : s.pNetIdxNext < 0x1000)
    (hKApp : ∀ k ∈ live s.pAppKeys, k.keys0.val ≠ K ∧ k.keys1.val ≠ K)
    (hKNet : ∀ sub ∈ live s.pSub, sub.keys0.net ≠ K ∧ sub.keys1.net ≠ K)
    (hn : ∃ sub ∈ live s.pSub, sub.netIdx = n) (hr : r < 0x1000)
    (hfreshApp : ∀ k ∈ live s.pAppKeys, k.appIdx ≠ r) (hfreshNet : ∀ sub ∈ live s.pSub, sub.netIdx ≠ r)
    (hfreeApp : none ∈ s.pAppKeys) (hfreeNet : none ∈ s.pSub) (halloc : env.alloc = true)
    (hid : (env.appId K).isSome) (hnid : (env.netKeysCreate K).isSome) :
    ((btMeshProvisionerLocalAppKeyAdd cfg env s (some K) n (some r)).1 = 0 ∧
      (btMeshProvisionerLocalAppKeyAdd cfg env s (some K) n (some r)).2.1 = some r ∧
      btMeshProvisionerLocalAppKeyGet
        (btMeshProvisionerLocalAppKeyAdd cfg env s (some K) n (some r)).2.2 n r = some K) ∧
    ((btMeshProvisionerLocalNetKeyAdd cfg env s (some K) (some r)).1 = 0 ∧
      (btMeshProvisionerLocalNetKeyAdd cfg env s (some K) (some r)).2.1 = some r ∧
      btMeshProvisionerLocalNetKeyGet
        (btMeshProvisionerLocalNetKeyAdd cfg env s (some K) (some r)).2.2 r = some K) :=
  ⟨appKeyAdd_explicit cfg hcApp hKApp hn hr hfreshApp hfreeApp halloc hid,
    netKeyAdd_explicit cfg hcNet hKNet hr hfreshNet hfreeNet halloc hnid⟩

/-- The explicit-index theorem at createdStore, key testKey 3 and index 5: every
hypothesis holds there, and both adds return 0 and store the key at index 5. -/
theorem explicitIdxAdd_succeeds_createdStore :
    (createdStore.pAppIdxNext < 0x1000 ∧ createdStore.pNetIdxNext < 0x1000 ∧
      (∀ k ∈ live createdStore.pAppKeys, k.keys0.val ≠ testKey 3 ∧ k.keys1.val ≠ testKey 3) ∧
      (∀ sub ∈ live createdStore.pSub, sub.keys0.net ≠ testKey 3 ∧ sub.keys1.net ≠ testKey 3) ∧
      (∃ sub ∈ live createdStore.pSub, sub.netIdx = 0) ∧ 5 < 0x1000 ∧
      (∀ k ∈ live createdStore.pAppKeys, k.appIdx ≠ 5) ∧
      (∀ sub ∈ live createdStore.pSub, sub.netIdx ≠ 5) ∧
      none ∈ createdStore.pAppKeys ∧ none ∈ createdStore.pSub) ∧
    ((btMeshProvisionerLocalAppKeyAdd smallConfig (.succeeding (testKey 3)) createdStore
        (some (testKey 3)) 0 (some 5)).1 = 0 ∧
      (btMeshProvisionerLocalAppKeyAdd smallConfig (.succeeding (testKey 3)) createdStore
        (some (testKey 3)) 0 (some 5)).2.1 = some 5 ∧
      btMeshProvisionerLocalAppKeyGet (btMeshProvisionerLocalAppKeyAdd smallConfig
        (.succeeding (testKey 3)) createdStore (some (testKey 3)) 0 (some 5)).2.2 0 5 =
          some (testKey 3)) ∧
    ((btMeshProvisionerLocalNetKeyAdd smallConfig (.succeeding (testKey 3)) createdStore
        (some (testKey 3)) (some 5)).1 = 0 ∧
      (btMeshProvisionerLocalNetKeyAdd smallConfig (.succeeding (testKey 3)) createdStore
        (some (testKey 3)) (some 5)).2.1 = some 5 ∧
      btMeshProvisionerLocalNetKeyGet (btMeshProvisionerLocalNetKeyAdd smallConfig
        (.succeeding (testKey 3)) createdStore (some (testKey 3)) (some 5)).2.2 5 =
          some (testKey 3)) :=
  have h : createdStore.pAppIdxNext < 0x1000 ∧ createdStore.pNetIdxNext < 0x1000 ∧
      (∀ k ∈ live createdStore.pAppKeys, k.keys0.val ≠ testKey 3 ∧ k.keys1.val ≠ testKey 3) ∧
      (∀ sub ∈ live createdStore.pSub, sub.keys0.net ≠ testKey 3 ∧ sub.keys1.net ≠ testKey 3) ∧
      (∃ sub ∈ live createdStore.pSub, sub.netIdx = 0) ∧ 5 < 0x1000 ∧
      (∀ k ∈ live createdStore.pAppKeys, k.appIdx ≠ 5) ∧
      (∀ sub ∈ live createdStore.pSub, sub.netIdx ≠ 5) ∧
      none ∈ createdStore.pAppKeys ∧ none ∈ createdStore.pSub := by decide
  ⟨h, explicitIdxAdd_succeeds smallConfig h.1 h.2.1 h.2.2.1 h.2.2.2.1 h.2.2.2.2.1 h.2.2.2.2.2.1
    h.2.2.2.2.2.2.1 h.2.2.2.2.2.2.2.1 h.2.2.2.2.2.2.2.2.1 h.2.2.2.2.2.2.2.2.2 rfl rfl rfl⟩

/-- After the fast-provisioning index is set to 0x1000 and a fast-provisioning net key is
added, a reachable state, an explicit net-key add of a fresh key at a fresh index, with a
free row and collaborators that succeed, fails with -EIO. -/
theorem explicitNetKeyAdd_fails_after_pin :
    KeyReachable smallConfig pinnedStore ∧ pinnedStore.pNetIdxNext = 0x1000 ∧
      (∀ k ∈ live pinnedStore.pAppKeys, k.keys0.val ≠ testKey 3 ∧ k.keys1.val ≠ testKey 3) ∧
      (∀ sub ∈ live pinnedStore.pSub, sub.keys0.net ≠ testKey 3 ∧ sub.keys1.net ≠ testKey 3) ∧
      (∃ sub ∈ live pinnedStore.pSub, sub.netIdx = 0) ∧
      (∀ sub ∈ live pinnedStore.pSub, sub.netIdx ≠ 5) ∧ none ∈ pinnedStore.pSub ∧
      (btMeshProvisionerLocalNetKeyAdd smallConfig (.succeeding (testKey 3)) pinnedStore
        (some (testKey 3)) (some 5)).1 = -eio :=
  ⟨.step (.addFastProvNetKey _ _) (.step (.setFastProvNetIdx _) (.step (.netCreate _ _ _)
      (.init (keyStoreInit_bootState _ 2 2 (by decide))) rfl) rfl) rfl,
    by decide, by decide, by decide, by decide, by decide, by decide, by decide⟩

end Adds

end BleMeshProvisioner

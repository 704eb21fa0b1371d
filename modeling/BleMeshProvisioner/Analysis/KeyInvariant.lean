import BleMeshProvisioner.Analysis.Cascade

/-!
# The key-store invariant

`KeyStoreInv` is what the key store keeps across every sequence of calls that return: in
each table no index on two occupied rows and every index below 0x1000, every app key bound
to a live subnet, and every model slot unused or holding the index of a live app key, with
no index twice in one model. One lemma per entry point shows it kept, from that entry
point's lemma in `KeyOps` or `Cascade`; `keyReachable_keyStoreInv` is the run lemma.

Under the invariant, a net-key delete that returns 0 has removed the subnet and everything
bound to it and nothing else (`netKeyDelete_cascade_spec`).
-/

set_option autoImplicit false

namespace BleMeshProvisioner

variable (cfg : Config)

/-- The key-store invariant. -/
structure KeyStoreInv (s : BtMesh) : Prop where
  subnets : IdxOk Subnet.netIdx s.pSub
  appKeys : IdxOk AppKey.appIdx s.pAppKeys
  bound : ∀ k ∈ live s.pAppKeys, ∃ sub ∈ live s.pSub, sub.netIdx = k.netIdx
  slotsLive : ∀ ks ∈ modelSlots s.elems, ∀ x ∈ ks,
    x = bleMeshKeyUnused ∨ ∃ k ∈ live s.pAppKeys, k.appIdx = x
  slotsNodup : ∀ ks ∈ modelSlots s.elems, (ks.filter (· != bleMeshKeyUnused)).Nodup

/-- The key-store invariant can be decided, so it can be checked on a state. -/
instance (s : BtMesh) : Decidable (KeyStoreInv s) :=
  decidable_of_iff (IdxOk Subnet.netIdx s.pSub ∧ IdxOk AppKey.appIdx s.pAppKeys ∧
      (∀ k ∈ live s.pAppKeys, ∃ sub ∈ live s.pSub, sub.netIdx = k.netIdx) ∧
      (∀ ks ∈ modelSlots s.elems, ∀ x ∈ ks,
        x = bleMeshKeyUnused ∨ ∃ k ∈ live s.pAppKeys, k.appIdx = x) ∧
      ∀ ks ∈ modelSlots s.elems, (ks.filter (· != bleMeshKeyUnused)).Nodup)
    ⟨fun ⟨a, b, c, d, e⟩ => ⟨a, b, c, d, e⟩, fun ⟨a, b, c, d, e⟩ => ⟨a, b, c, d, e⟩⟩

/-! ## Model slots under unbinding -/

/-- INTERNAL: After unbinding the indices `D`, every slot is unused or holds the index of a
key of any table `L'` that kept every key whose index is not in `D`. -/
theorem slotsLive_clear {S : List (List Nat)} {L L' : List AppKey} {D : List Nat}
    (h : ∀ ks ∈ S, ∀ x ∈ ks, x = bleMeshKeyUnused ∨ ∃ k ∈ L, k.appIdx = x)
    (hkeep : ∀ k ∈ L, k.appIdx ∉ D → k ∈ L') :
    ∀ ks ∈ S.map (List.map (clearSlots D)), ∀ y ∈ ks,
      y = bleMeshKeyUnused ∨ ∃ k ∈ L', k.appIdx = y := by
  simp only [List.mem_map]
  rintro _ ⟨ks, hks, rfl⟩ y hy
  obtain ⟨x, hx, rfl⟩ := List.mem_map.mp hy
  unfold clearSlots
  split_ifs with hD
  · exact .inl rfl
  · rcases h ks hks x hx with hu | ⟨k, hk, rfl⟩
    · exact .inl hu
    · exact .inr ⟨k, hkeep k hk hD, rfl⟩

/-- Marking unused every slot of every model that holds an index of D keeps each model's
slots in use distinct. -/
theorem slotsNodup_clear {S : List (List Nat)} (D : List Nat)
    (h : ∀ ks ∈ S, (ks.filter (· != bleMeshKeyUnused)).Nodup) :
    ∀ ks ∈ S.map (List.map (clearSlots D)), (ks.filter (· != bleMeshKeyUnused)).Nodup := by
  simp only [List.mem_map]
  rintro _ ⟨ks, hks, rfl⟩
  exact nodup_filter_clearSlots D ks (h ks hks)

/-! ## One lemma per entry point -/

section Preserve

variable {s s' : BtMesh}

/-- INTERNAL: The invariant reads only the two tables and the model slots. -/
theorem KeyStoreInv.congr (h : KeyStoreInv s) (hsub : s'.pSub = s.pSub)
    (hkeys : s'.pAppKeys = s.pAppKeys) (hslots : modelSlots s'.elems = modelSlots s.elems) :
    KeyStoreInv s' := by
  obtain ⟨h1, h2, h3, h4, h5⟩ := h
  rw [← hsub] at h1 h3
  rw [← hkeys] at h2 h3 h4
  rw [← hslots] at h4 h5
  exact ⟨h1, h2, h3, h4, h5⟩

/-- An empty key store keeps the key-store invariant. -/
theorem KeyStoreInit.keyStoreInv (h : KeyStoreInit s) : KeyStoreInv s := by
  have hsub : live s.pSub = [] :=
    List.eq_nil_iff_forall_not_mem.mpr fun a ha => by simpa using h.pSub_empty _ (mem_live.mp ha)
  have hkeys : live s.pAppKeys = [] :=
    List.eq_nil_iff_forall_not_mem.mpr fun a ha => by simpa using h.pAppKeys_empty _ (mem_live.mp ha)
  refine ⟨by simp [IdxOk, hsub], by simp [IdxOk, hkeys], by simp [hkeys],
    fun ks hks x hx => .inl (h.slots_unused ks hks x hx), fun ks hks => ?_⟩
  rw [List.filter_eq_nil_iff.mpr fun x hx => by simp [h.slots_unused ks hks x hx]]
  exact List.nodup_nil

/-- INTERNAL: Writing a subnet with a fresh index below 0x1000 into a free row keeps the
invariant. -/
theorem KeyStoreInv.insertSubnet (h : KeyStoreInv s) {add : Nat} {sub : Subnet}
    (hfree : s.pSub[add]? = some none) (hlt : sub.netIdx < 0x1000)
    (hnew : ∀ b ∈ live s.pSub, b.netIdx ≠ sub.netIdx) (hsub : s'.pSub = s.pSub.set add (some sub))
    (hkeys : s'.pAppKeys = s.pAppKeys) (hslots : modelSlots s'.elems = modelSlots s.elems) :
    KeyStoreInv s' where
  subnets := hsub ▸ h.subnets.insert hfree hlt hnew
  appKeys := hkeys ▸ h.appKeys
  bound k hk := by
    obtain ⟨b, hb, he⟩ := h.bound k (hkeys ▸ hk)
    exact ⟨b, hsub ▸ (live_set_free hfree).mem_iff.mpr (List.mem_cons_of_mem _ hb), he⟩
  slotsLive := hslots ▸ hkeys ▸ h.slotsLive
  slotsNodup := hslots ▸ h.slotsNodup

/-- INTERNAL: Writing an app key with a fresh index below 0x1000, bound to a live subnet,
into a free row keeps the invariant. -/
theorem KeyStoreInv.insertAppKey (h : KeyStoreInv s) {add : Nat} {key : AppKey}
    (hfree : s.pAppKeys[add]? = some none) (hlt : key.appIdx < 0x1000)
    (hnew : ∀ b ∈ live s.pAppKeys, b.appIdx ≠ key.appIdx)
    (hnet : ∃ sub ∈ live s.pSub, sub.netIdx = key.netIdx) (hsub : s'.pSub = s.pSub)
    (hkeys : s'.pAppKeys = s.pAppKeys.set add (some key))
    (hslots : modelSlots s'.elems = modelSlots s.elems) : KeyStoreInv s' where
  subnets := hsub ▸ h.subnets
  appKeys := hkeys ▸ h.appKeys.insert hfree hlt hnew
  bound k hk := by
    rw [hsub]
    rw [hkeys] at hk
    rcases List.mem_cons.mp ((live_set_free hfree).mem_iff.mp hk) with rfl | hk
    · exact hnet
    · exact h.bound k hk
  slotsLive ks hks x hx := by
    rw [hkeys]
    rcases h.slotsLive ks (hslots ▸ hks) x hx with hu | ⟨k, hk, he⟩
    · exact .inl hu
    · exact .inr ⟨k, (live_set_free hfree).mem_iff.mpr (List.mem_cons_of_mem _ hk), he⟩
  slotsNodup := hslots ▸ h.slotsNodup

/-- A net_create keeps the key-store invariant. -/
theorem netCreate_keyStoreInv (h : KeyStoreInv s) (env : Env) (comp : Bool)
    (prov : Option ProvInfo) : KeyStoreInv (btMeshProvisionerNetCreate cfg env s comp prov).2 := by
  obtain ⟨hkeys, hslots, hsub | ⟨hempty, sub, hsub0, hsub⟩⟩ := netCreate_cases cfg rfl
  · exact h.congr hsub hkeys hslots
  have hnil : live s.pSub = [] :=
    List.eq_nil_iff_forall_not_mem.mpr fun a ha => by simpa using hempty _ (mem_live.mp ha)
  have hlive := live_set_of_live_eq_nil hnil 0 sub
  rw [← hsub] at hlive
  refine ⟨⟨fun b hb => ?_, ?_⟩, hkeys ▸ h.appKeys, fun k hk => ?_,
    hslots ▸ hkeys ▸ h.slotsLive, hslots ▸ h.slotsNodup⟩
  · rw [hlive] at hb
    split_ifs at hb
    · simp only [List.mem_singleton] at hb
      simp [hb, hsub0, bleMeshKeyPrimary]
    · simp at hb
  · rw [hlive]
    split_ifs <;> simp
  · obtain ⟨b, hb, -⟩ := h.bound k (hkeys ▸ hk)
    simp [hnil] at hb

/-- A net-key add keeps the key-store invariant, by the cases of its outcome. -/
theorem netKeyAdd_keyStoreInv (h : KeyStoreInv s) (env : Env) (k : Option Bytes16)
    (r : Option Nat) : KeyStoreInv (btMeshProvisionerLocalNetKeyAdd cfg env s k r).2.2 := by
  rcases netKeyAdd_outcome cfg env s k r with ⟨-, -, hs⟩ | ⟨-, hs, -⟩ |
      ⟨-, -, add, i, pKey, nid, hadd, hi, hnew, -, -, -, hsub, hkeys, hel, -⟩
  · rw [hs]; exact h.congr rfl rfl rfl
  · rw [hs]; exact h
  · exact h.insertSubnet (firstFreeIn_eq_some.mp hadd).2.2.1 hi hnew hsub hkeys (by rw [hel])

/-- An app-key add keeps the key-store invariant, by the cases of its outcome. -/
theorem appKeyAdd_keyStoreInv (h : KeyStoreInv s) (env : Env) (k : Option Bytes16) (n : Nat)
    (r : Option Nat) : KeyStoreInv (btMeshProvisionerLocalAppKeyAdd cfg env s k n r).2.2 := by
  rcases appKeyAdd_outcome cfg env s k n r with ⟨-, -, hs⟩ | ⟨-, hs, -⟩ |
      ⟨-, -, hnet, add, i, pKey, aid, hadd, hi, hnew, -, -, -, hkeys, hsub, hel, -⟩
  · rw [hs]; exact h.congr rfl rfl rfl
  · rw [hs]; exact h
  · exact h.insertAppKey (firstFreeIn_eq_some.mp hadd).2.2.1 hi hnew hnet hsub hkeys (by rw [hel])

/-- An app-key delete keeps the key-store invariant: it frees the row and clears every
model slot holding its index. -/
theorem appKeyDelete_keyStoreInv (h : KeyStoreInv s) (n a : Nat) :
    KeyStoreInv (btMeshProvisionerLocalAppKeyDelete cfg s n a).2 := by
  rcases appKeyDelete_cases cfg s n a with he | ⟨hn, i, key, hf⟩
  · rw [he]; exact h
  obtain ⟨-, hkeys, hsub, hslots⟩ := appKeyDelete_of_findRow cfg hn hf
  obtain ⟨hrow, hp, -⟩ := findRow_eq_some hf
  have ha : key.appIdx = a := by simp only [Bool.and_eq_true, beq_iff_eq] at hp; exact hp.2
  have hkeep : ∀ k ∈ live s.pAppKeys, k.appIdx ∉ [a] → k ∈ live (s.pAppKeys.set i none) :=
    fun k hk hka => (List.mem_cons.mp ((live_set_none hrow).mem_iff.mp hk)).resolve_left
      (by rintro rfl; simp [ha] at hka)
  exact ⟨hsub ▸ h.subnets, hkeys ▸ h.appKeys.erase hrow,
    fun k hk => hsub ▸ h.bound k (mem_live_of_set_none hrow (hkeys ▸ hk)),
    hslots ▸ hkeys ▸ slotsLive_clear h.slotsLive hkeep, hslots ▸ slotsNodup_clear _ h.slotsNodup⟩

/-- Rebinding an app key to another subnet keeps the key-store invariant only when that
subnet is live, which the call checks. -/
theorem bindAppNetIdx_keyStoreInv (h : KeyStoreInv s) (n a : Nat) :
    KeyStoreInv (btMeshProvisionerBindLocalAppNetIdx s n a).2 := by
  rcases bindAppNetIdx_cases rfl with he | ⟨hn, i, key, hrow, he⟩
  · rw [he]; exact h
  rw [he]
  have hnew := live_set_some_perm { key with netIdx := n } (List.getElem?_eq_some_iff.mp hrow).1
  refine ⟨h.subnets, h.appKeys.replace hrow rfl, fun k hk => ?_, fun ks hks x hx => ?_,
    h.slotsNodup⟩
  · rcases List.mem_cons.mp (hnew.mem_iff.mp hk) with rfl | hk
    · exact hn
    · exact h.bound k (mem_live_of_set_none hrow hk)
  · rcases h.slotsLive ks hks x hx with hu | ⟨k, hk, rfl⟩
    · exact .inl hu
    rcases List.mem_cons.mp ((live_set_none hrow).mem_iff.mp hk) with rfl | hk
    · exact .inr ⟨_, hnew.mem_iff.mpr (List.mem_cons_self _ _), rfl⟩
    · exact .inr ⟨k, hnew.mem_iff.mpr (List.mem_cons_of_mem _ hk), rfl⟩

/-- A model binding keeps the key-store invariant: it writes a live app index into a free
slot of a model that does not hold it. -/
theorem bindModel_keyStoreInv (h : KeyStoreInv s) (e m c a : Nat) :
    KeyStoreInv (btMeshProvisionerBindLocalModelAppIdx cfg s e m c a).2 := by
  obtain ⟨hsub, hkeys, hel | ⟨ref, model, k, hmodel, ⟨key, hkey, hka⟩, hnot, hk, hel⟩⟩ :=
    bindModel_cases cfg rfl
  · exact h.congr hsub hkeys (by rw [hel])
  have hne : a ≠ bleMeshKeyUnused := by
    have := h.appKeys.1 key hkey
    simp only [bleMeshKeyUnused]
    omega
  refine ⟨hsub ▸ h.subnets, hkeys ▸ h.appKeys, hsub ▸ hkeys ▸ h.bound, fun ks hks x hx => ?_,
    fun ks hks => ?_⟩ <;> rw [hel] at hks
  · rw [hkeys]
    rcases mem_modelSlots_setModel hks with hks | rfl
    · exact h.slotsLive ks hks x hx
    rcases List.mem_or_eq_of_mem_set hx with hx | rfl
    · exact h.slotsLive _ hmodel x hx
    · exact .inr ⟨key, hkey, hka⟩
  · rcases mem_modelSlots_setModel hks with hks | rfl
    · exact h.slotsNodup ks hks
    exact (filter_set_unused hk hne).nodup_iff.mpr
      (List.nodup_cons.mpr ⟨fun hm => hnot (List.mem_of_mem_filter hm), h.slotsNodup _ hmodel⟩)

/-- A net-key delete that returns keeps the key-store invariant, by the cascade
invariant at the cascade's end. -/
theorem netKeyDelete_keyStoreInv (h : KeyStoreInv s) {n : Nat} {r : Int} {rs : List Int}
    (hd : btMeshProvisionerLocalNetKeyDelete cfg s n = some (r, rs, s')) : KeyStoreInv s' := by
  rcases netKeyDelete_some cfg hd with ⟨-, -, -, ⟨i, sub, hf, hsub⟩, hkeys, hslots⟩ | ⟨-, -, -, rfl⟩
  · obtain ⟨hrow, hp, -⟩ := findRow_eq_some hf
    have hn : sub.netIdx = n := by simpa using hp
    have hkeep : ∀ k ∈ live s.pAppKeys, k.appIdx ∉ boundAppIdxs n s.pAppKeys →
        k ∈ live (s.pAppKeys.map (dropNet n)) := fun k hk hD => by
      rw [live_map_dropNet, List.mem_filter]
      exact ⟨hk, by simpa using fun hkn => hD (mem_boundAppIdxs.mpr ⟨k, hk, hkn, rfl⟩)⟩
    refine ⟨hsub ▸ h.subnets.erase hrow,
      hkeys ▸ h.appKeys.of_sublist (live_map_dropNet n _ ▸ List.filter_sublist _),
      fun k hk => ?_, hslots ▸ hkeys ▸ slotsLive_clear h.slotsLive hkeep,
      hslots ▸ slotsNodup_clear _ h.slotsNodup⟩
    rw [hkeys, live_map_dropNet, List.mem_filter] at hk
    obtain ⟨b, hb, he⟩ := h.bound k hk.1
    refine ⟨b, hsub ▸ ?_, he⟩
    rcases List.mem_cons.mp ((live_set_none hrow).mem_iff.mp hb) with rfl | hb
    · simp [← he, hn] at hk
    · exact hb
  · exact h

/-- One call that returns keeps the invariant. -/
theorem keyStep_keyStoreInv (h : KeyStoreInv s) {op : KeyOp} (hs : keyStep cfg s op = some s') :
    KeyStoreInv s' := by
  cases op with
  | netCreate env comp prov => cases hs; exact netCreate_keyStoreInv cfg h env comp prov
  | netKeyAdd env k i => cases hs; exact netKeyAdd_keyStoreInv cfg h env k i
  | netKeyDelete i =>
    obtain ⟨⟨r, rs, s''⟩, hd, rfl⟩ := Option.map_eq_some'.mp hs
    exact netKeyDelete_keyStoreInv cfg h hd
  | appKeyAdd env k n i => cases hs; exact appKeyAdd_keyStoreInv cfg h env k n i
  | appKeyDelete n i => cases hs; exact appKeyDelete_keyStoreInv cfg h n i
  | bindAppNetIdx n i => cases hs; exact bindAppNetIdx_keyStoreInv h n i
  | bindModelAppIdx e m c i => cases hs; exact bindModel_keyStoreInv cfg h e m c i
  | setFastProvNetIdx i =>
    cases hs
    obtain ⟨h1, h2, h3⟩ := setFastProvNetIdx_tables s i
    exact h.congr h1 h2 (by rw [h3])
  | addFastProvNetKey env k =>
    cases hs
    obtain ⟨h1, h2, h3, -⟩ := addFastProvNetKey_tables cfg env s k
    exact (netKeyAdd_keyStoreInv cfg (s := { s with pNetIdxNext := s.fastProvNetIdx })
      (h.congr rfl rfl rfl) env k (some s.fastProvNetIdx)).congr h1 h2 (by rw [h3])

end Preserve

/-! ## Every reachable state -/

/-- Every state reached from an empty key store by calls that return has the key-store
invariant. -/
theorem keyReachable_keyStoreInv {s : BtMesh} (h : KeyReachable cfg s) : KeyStoreInv s := by
  induction h with
  | init hi => exact hi.keyStoreInv
  | step _ _ hs ih => exact keyStep_keyStoreInv cfg ih hs

/-- A small key store after the network is created, an app key added with the next free
index and bound to the one SIG model of the one element: one subnet, one app key, one slot
holding it. -/
def boundStore : BtMesh :=
  (btMeshProvisionerBindLocalModelAppIdx smallConfig
    (btMeshProvisionerLocalAppKeyAdd smallConfig (.succeeding Bytes16.zero)
      (btMeshProvisionerNetCreate smallConfig (.succeeding Bytes16.zero)
        (bootState smallConfig 1 1 [⟨0, [⟨0x1000, 0xFFFF, [bleMeshKeyUnused], none⟩], []⟩]) true
        (some ⟨1, 0, 0⟩)).2
      (some Bytes16.zero) bleMeshKeyPrimary (some 0xFFFF)).2.2
    1 0x1000 0xFFFF 0).2

/-- boundStore is reached from an empty key store, and keeps the invariant. -/
theorem keyStoreInv_boundStore : KeyReachable smallConfig boundStore ∧ KeyStoreInv boundStore :=
  have h : KeyReachable smallConfig boundStore :=
    .step (.bindModelAppIdx 1 0x1000 0xFFFF 0) (.step (.appKeyAdd _ _ _ _)
      (.step (.netCreate _ _ _) (.init (keyStoreInit_bootState _ 1 1 (by decide))) rfl) rfl) rfl
  ⟨h, keyReachable_keyStoreInv smallConfig h⟩

/-! ## The net-key delete cascade under the invariant -/

section Cascade

variable {s s' : BtMesh} {n : Nat} {r : Int} {rs : List Int}

/-- INTERNAL: After the delete, no live subnet has the deleted index. -/
theorem netIdx_ne_of_set_none (hinv : KeyStoreInv s) {i : Nat} {sub : Subnet}
    (hrow : s.pSub[i]? = some (some sub)) : ∀ b ∈ live (s.pSub.set i none), b.netIdx ≠ sub.netIdx :=
  idx_ne_of_set_none hinv.subnets.2 hrow

/-- INTERNAL: No slot holds an index of `boundAppIdxs` once they are unbound. -/
theorem not_mem_boundAppIdxs_clear (hinv : KeyStoreInv s) :
    ∀ ks ∈ (modelSlots s.elems).map (List.map (clearSlots (boundAppIdxs n s.pAppKeys))),
      ∀ x ∈ ks, x ∉ boundAppIdxs n s.pAppKeys := by
  simp only [List.mem_map]
  rintro _ ⟨ks, -, rfl⟩ x hx hD
  obtain ⟨y, -, rfl⟩ := List.mem_map.mp hx
  unfold clearSlots at hD
  split_ifs at hD with hy
  · obtain ⟨k, hk, -, hka⟩ := mem_boundAppIdxs.mp hD
    have := hinv.appKeys.1 k hk
    simp only [bleMeshKeyUnused] at hka
    omega
  · exact hy hD

/-- INTERNAL: The cascade statement for a delete that returns. -/
theorem netKeyDelete_spec_of_some (hinv : KeyStoreInv s)
    (h : btMeshProvisionerLocalNetKeyDelete cfg s n = some (r, rs, s')) :
    (r = 0 →
      (∀ sub ∈ live s'.pSub, sub.netIdx ≠ n) ∧ (∀ k ∈ live s'.pAppKeys, k.netIdx ≠ n) ∧
      (∀ x ∈ rs, x = 0) ∧ (∀ ks ∈ modelSlots s'.elems, ∀ x ∈ ks, x ∉ boundAppIdxs n s.pAppKeys) ∧
      (∃ i sub, s.pSub[i]? = some (some sub) ∧ sub.netIdx = n ∧ s'.pSub = s.pSub.set i none) ∧
      s'.pAppKeys = s.pAppKeys.map (dropNet n) ∧
      modelSlots s'.elems =
        (modelSlots s.elems).map (List.map (clearSlots (boundAppIdxs n s.pAppKeys)))) ∧
    (r ≠ 0 → s' = s) := by
  rcases netKeyDelete_some cfg h with ⟨-, rfl, hrs, ⟨i, sub, hf, hsub⟩, hkeys, hslots⟩ |
      ⟨-, rfl, -, rfl⟩
  · obtain ⟨hrow, hp, -⟩ := findRow_eq_some hf
    have hn : sub.netIdx = n := by simpa using hp
    refine ⟨fun _ => ⟨?_, fun k hk => ?_, hrs, hslots ▸ not_mem_boundAppIdxs_clear hinv,
      ⟨i, sub, hrow, hn, hsub⟩, hkeys, hslots⟩, fun h0 => absurd rfl h0⟩
    · exact hsub ▸ hn ▸ netIdx_ne_of_set_none hinv hrow
    · rw [hkeys, live_map_dropNet, List.mem_filter] at hk
      simpa using hk.2
  · exact ⟨fun h0 => absurd h0 neg_enodev_ne_zero, fun _ => rfl⟩

/-- Under the key-store invariant, a net-key delete that returns 0 has freed the subnet's
row and no other subnet row, freed exactly the app-key rows bound to the subnet, unbound
exactly their app indices from the model slots, and every inner delete returned 0; one
that returns an error has changed nothing. -/
theorem netKeyDelete_cascade_spec (hinv : KeyStoreInv s) (n : Nat) :
    match btMeshProvisionerLocalNetKeyDelete cfg s n with
    | some (r, rs, s') =>
      (r = 0 →
        (∀ sub ∈ live s'.pSub, sub.netIdx ≠ n) ∧ (∀ k ∈ live s'.pAppKeys, k.netIdx ≠ n) ∧
        (∀ x ∈ rs, x = 0) ∧
        (∀ ks ∈ modelSlots s'.elems, ∀ x ∈ ks, x ∉ boundAppIdxs n s.pAppKeys) ∧
        (∃ i sub, s.pSub[i]? = some (some sub) ∧ sub.netIdx = n ∧ s'.pSub = s.pSub.set i none) ∧
        s'.pAppKeys = s.pAppKeys.map (dropNet n) ∧
        modelSlots s'.elems =
          (modelSlots s.elems).map (List.map (clearSlots (boundAppIdxs n s.pAppKeys)))) ∧
      (r ≠ 0 → s' = s)
    | none => True := by
  match h : btMeshProvisionerLocalNetKeyDelete cfg s n with
  | some (r, rs, s') => exact netKeyDelete_spec_of_some cfg hinv h
  | none => trivial

/-- On `boundStore` the delete of the primary subnet returns 0, the inner delete of the app
key bound to it returns 0, and neither a subnet nor an app key of index 0 nor a slot holding
the app key is left. -/
theorem netKeyDelete_cascade_spec_boundStore :
    KeyStoreInv boundStore ∧ ∃ s', btMeshProvisionerLocalNetKeyDelete smallConfig boundStore 0 =
        some (0, [0], s') ∧
      (∀ sub ∈ live s'.pSub, sub.netIdx ≠ 0) ∧ (∀ k ∈ live s'.pAppKeys, k.netIdx ≠ 0) ∧
      ∀ ks ∈ modelSlots s'.elems, ∀ x ∈ ks, x ∉ boundAppIdxs 0 boundStore.pAppKeys := by
  have hinv : KeyStoreInv boundStore := by decide
  have h := netKeyDelete_cascade_spec smallConfig hinv 0
  obtain ⟨s', hd⟩ : ∃ s', btMeshProvisionerLocalNetKeyDelete smallConfig boundStore 0 =
      some (0, [0], s') := ⟨_, rfl⟩
  rw [hd] at h
  obtain ⟨h1, h2, -, h4, -⟩ := h.1 rfl
  exact ⟨hinv, s', hd, h1, h2, h4⟩

end Cascade

end BleMeshProvisioner

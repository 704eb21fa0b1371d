import BleMeshProvisioner.Analysis.KeyOps
import BleMeshProvisioner.Model.Run

/-!
# The net-key delete cascade

`bt_mesh_provisioner_local_net_key_delete` (`provisioner_main.c:1128-1163`) walks every row
of `p_app_keys` and deletes each app key bound to the subnet. `CascadeInv` says where the
walk stands before row `j`: the rows below `j` bound to the subnet are freed and the others
kept, the rows from `j` on are as they were, every model slot that held an app index freed
so far is unused, and every inner delete returned 0. One visit keeps it (`cascade_step`),
so the whole walk does (`cascade_run`): it returns exactly when no row is NULL, and then
every app key bound to the subnet is gone and everything else is kept.

The inner delete always finds the row the walk is visiting: the rows before it that were
bound to the subnet are already freed, and it searches for both indices.
-/

set_option autoImplicit false

namespace BleMeshProvisioner

variable (cfg : Config)

/-- A row as the cascade for `netIdx` leaves it: freed when it holds a key bound there. -/
def dropNet (netIdx : Nat) (o : Option AppKey) : Option AppKey :=
  if o.any (·.netIdx == netIdx) then none else o

/-- The occupied rows after the cascade are those bound elsewhere. -/
theorem live_map_dropNet (n : Nat) (t : List (Option AppKey)) :
    live (t.map (dropNet n)) = (live t).filter (·.netIdx != n) := by
  induction t with
  | nil => rfl
  | cons o t ih =>
    cases o with
    | none => simpa [dropNet] using ih
    | some k => by_cases hk : k.netIdx = n <;> simp [dropNet, hk, ih]

/-- The app indices of the keys bound to `netIdx` in a table, in row order. -/
def boundAppIdxs (netIdx : Nat) (t : List (Option AppKey)) : List Nat :=
  ((live t).filter (·.netIdx == netIdx)).map (·.appIdx)

@[simp] theorem boundAppIdxs_append (n : Nat) (t u : List (Option AppKey)) :
    boundAppIdxs n (t ++ u) = boundAppIdxs n t ++ boundAppIdxs n u := by
  simp [boundAppIdxs, live, List.filterMap_append]

/-- INTERNAL: The indices the cascade will free are those of the live app keys bound to the
subnet. -/
theorem mem_boundAppIdxs {n x : Nat} {t : List (Option AppKey)} :
    x ∈ boundAppIdxs n t ↔ ∃ k ∈ live t, k.netIdx = n ∧ k.appIdx = x := by
  simp [boundAppIdxs, and_assoc]

@[simp] theorem clearSlots_nil (x : Nat) : clearSlots [] x = x := rfl

/-- INTERNAL: Unbinding the keys of `D` and then `a` is unbinding the keys of `D ++ [a]`. -/
theorem clearSlots_comp (D : List Nat) (a : Nat) :
    clearSlots [a] ∘ clearSlots D = clearSlots (D ++ [a]) := by
  funext x
  simp only [Function.comp_apply, clearSlots, List.mem_append, List.mem_singleton]
  by_cases hx : x ∈ D <;> simp [hx]

/-- INTERNAL: The rows of a table whose first `j` rows went through `f`. -/
theorem getElem?_map_take_append_drop {β : Type} (f : β → β) (l : List β) (j x : Nat) :
    ((l.take j).map f ++ l.drop j)[x]? = if x < j then l[x]?.map f else l[x]? := by
  have hlen : ((l.take j).map f).length = min j l.length := by
    rw [List.length_map, List.length_take]
  by_cases hl : x < l.length
  · by_cases hx : x < j
    · rw [if_pos hx, List.getElem?_append_left (by omega), List.getElem?_map,
        List.getElem?_take_of_lt hx]
    · rw [if_neg hx, List.getElem?_append_right (by omega), List.getElem?_drop, hlen]
      congr 1
      omega
  · rw [List.getElem?_eq_none (by rw [List.length_append, hlen, List.length_drop]; omega),
      List.getElem?_eq_none (by omega)]
    split_ifs <;> rfl

/-- Where the cascade for subnet `n`, started in `s0`, stands before row `j`, having
recorded the inner deletes' results `rs`. -/
structure CascadeInv (s0 : BtMesh) (n j : Nat) (s : BtMesh) (rs : List Int) : Prop where
  pSub_eq : s.pSub = s0.pSub
  pAppKeys_eq : s.pAppKeys = (s0.pAppKeys.take j).map (dropNet n) ++ s0.pAppKeys.drop j
  slots_eq : modelSlots s.elems =
    (modelSlots s0.elems).map (List.map (clearSlots (boundAppIdxs n (s0.pAppKeys.take j))))
  results_zero : ∀ r ∈ rs, r = 0

/-- Before its first pass the cascade has visited no row and freed nothing. -/
theorem CascadeInv.start (s0 : BtMesh) (n : Nat) : CascadeInv s0 n 0 s0 [] where
  pSub_eq := rfl
  pAppKeys_eq := by simp
  slots_eq := by simp [boundAppIdxs, List.map_id'']
  results_zero := by simp

section Step

variable {s0 s : BtMesh} {n j : Nat} {rs : List Int}

/-- INTERNAL: The row the walk visits is as it was when the walk started. -/
theorem CascadeInv.getElem?_self (h : CascadeInv s0 n j s rs) :
    s.pAppKeys[j]? = s0.pAppKeys[j]? := by
  rw [h.pAppKeys_eq, getElem?_map_take_append_drop, if_neg (Nat.lt_irrefl j)]

/-- INTERNAL: No row the walk has passed holds a key bound to the subnet. -/
theorem CascadeInv.netIdx_ne (h : CascadeInv s0 n j s rs) {x : Nat} {b : AppKey} (hx : x < j)
    (hb : s.pAppKeys[x]? = some (some b)) : b.netIdx ≠ n := by
  rw [h.pAppKeys_eq, getElem?_map_take_append_drop, if_pos hx] at hb
  obtain ⟨o, -, ho⟩ := Option.map_eq_some'.mp hb
  unfold dropNet at ho
  split_ifs at ho with hn
  subst ho
  simpa using hn

/-- INTERNAL: The table after the walk passes row `j` unchanged or frees it. -/
theorem CascadeInv.pAppKeys_succ (h : CascadeInv s0 n j s rs) {key : AppKey}
    (hj : s0.pAppKeys[j]? = some (some key)) :
    (if key.netIdx = n then s.pAppKeys.set j none else s.pAppKeys) =
      (s0.pAppKeys.take (j + 1)).map (dropNet n) ++ s0.pAppKeys.drop (j + 1) := by
  apply List.ext_getElem?
  intro x
  rw [getElem?_map_take_append_drop]
  rcases Nat.lt_trichotomy x j with hx | rfl | hx
  · rw [if_pos (show x < j + 1 by omega)]
    split <;> simp only [List.getElem?_set_ne (Nat.ne_of_gt hx), h.pAppKeys_eq,
      getElem?_map_take_append_drop, if_pos hx]
  · rw [if_pos (Nat.lt_succ_self x), hj]
    split_ifs with hk
    · simp [List.getElem?_set_self (List.getElem?_eq_some_iff.mp (h.getElem?_self ▸ hj)).1,
        dropNet, hk]
    · simp [h.getElem?_self, hj, dropNet, hk]
  · rw [if_neg (show ¬x < j + 1 by omega)]
    split <;> simp only [List.getElem?_set_ne (Nat.ne_of_lt hx), h.pAppKeys_eq,
      getElem?_map_take_append_drop, if_neg (Nat.lt_asymm hx)]

/-- INTERNAL: The bound app indices of the first `j + 1` rows. -/
theorem boundAppIdxs_take_succ {t : List (Option AppKey)} {key : AppKey}
    (hj : t[j]? = some (some key)) :
    boundAppIdxs n (t.take (j + 1)) =
      boundAppIdxs n (t.take j) ++ if key.netIdx = n then [key.appIdx] else [] := by
  rw [List.take_succ, hj, boundAppIdxs_append]
  split_ifs with hk <;> simp [boundAppIdxs, hk]

/-- One visit of the walk to an occupied row keeps `CascadeInv`: a key bound to the subnet
is deleted by an inner delete that returns 0, any other row is passed over. -/
theorem cascade_step (hn : ∃ sub ∈ live s0.pSub, sub.netIdx = n) (h : CascadeInv s0 n j s rs)
    {key : AppKey} (hj : s0.pAppKeys[j]? = some (some key)) (js : List Nat) :
    ∃ s' rs', netKeyDeleteCascade cfg n (j :: js) (s, rs) = netKeyDeleteCascade cfg n js (s', rs') ∧
      CascadeInv s0 n (j + 1) s' rs' := by
  have hrow : s.pAppKeys[j]? = some (some key) := h.getElem?_self.trans hj
  have htake := boundAppIdxs_take_succ (n := n) hj
  have hkeys := h.pAppKeys_succ hj
  by_cases hk : key.netIdx = n
  · subst hk
    have hf : findRow (fun k => k.netIdx == key.netIdx && k.appIdx == key.appIdx) s.pAppKeys =
        some (j, key) :=
      findRow_of_first hrow (by simp) fun x b hx hb => by simp [h.netIdx_ne hx hb]
    obtain ⟨h0, hkeys', hsub, hslots⟩ := appKeyDelete_of_findRow cfg (h.pSub_eq ▸ hn) hf
    refine ⟨_, _, by simp only [netKeyDeleteCascade, hrow, if_true]; rfl, ?_⟩
    refine ⟨hsub.trans h.pSub_eq, hkeys'.trans (by simpa using hkeys), ?_, ?_⟩
    · rw [hslots, h.slots_eq, htake, if_pos rfl, List.map_map]
      congr 1
      funext ks
      rw [Function.comp_apply, List.map_map, clearSlots_comp]
    · simp only [h0, List.mem_append, List.mem_singleton]
      exact fun r hr => hr.elim (h.results_zero r) id
  · refine ⟨s, rs, by simp only [netKeyDeleteCascade, hrow, if_neg hk], ?_⟩
    refine ⟨h.pSub_eq, by simpa [hk] using hkeys, ?_, h.results_zero⟩
    rw [h.slots_eq, htake, if_neg hk, List.append_nil]

/-- A visit of the walk to a NULL row dereferences it: the call does not return. -/
theorem cascade_step_null (h : CascadeInv s0 n j s rs) (hj : s0.pAppKeys[j]? = some none)
    (js : List Nat) : netKeyDeleteCascade cfg n (j :: js) (s, rs) = none := by
  simp only [netKeyDeleteCascade, h.getElem?_self.trans hj]

end Step

/-- The walk from row `j` to the end of the table, by induction on the rows left: it
returns with `CascadeInv` at the end when no row from `j` on is NULL, and does not return
when one is. -/
theorem cascade_run {s0 : BtMesh} {n : Nat} (hn : ∃ sub ∈ live s0.pSub, sub.netIdx = n) (k : Nat) :
    ∀ {j s rs}, CascadeInv s0 n j s rs → j + k = s0.pAppKeys.length →
      (∃ s' rs', netKeyDeleteCascade cfg n (List.range' j k) (s, rs) = some (s', rs') ∧
          CascadeInv s0 n s0.pAppKeys.length s' rs' ∧ ∀ x, j ≤ x → s0.pAppKeys[x]? ≠ some none) ∨
        (netKeyDeleteCascade cfg n (List.range' j k) (s, rs) = none ∧
          ∃ x, j ≤ x ∧ s0.pAppKeys[x]? = some none) := by
  induction k with
  | zero =>
    intro j s rs h hj
    refine .inl ⟨s, rs, rfl, hj ▸ h, fun x hx => ?_⟩
    rw [List.getElem?_eq_none (by omega)]
    exact Option.noConfusion
  | succ k ih =>
    intro j s rs h hj
    rw [List.range'_succ]
    match hrow : s0.pAppKeys[j]? with
    | none => exact absurd (List.getElem?_eq_none_iff.mp hrow) (by omega)
    | some none => exact .inr ⟨cascade_step_null cfg h hrow _, j, le_refl j, hrow⟩
    | some (some key) =>
      obtain ⟨s', rs', heq, h'⟩ := cascade_step cfg hn h hrow (List.range' (j + 1) k)
      rw [heq]
      rcases ih h' (by omega) with ⟨s'', rs'', hr, hinv, hnull⟩ | ⟨hr, x, hx, hnull⟩
      · refine .inl ⟨s'', rs'', hr, hinv, fun x hx => ?_⟩
        rcases Nat.eq_or_lt_of_le hx with rfl | hx
        · simp [hrow]
        · exact hnull x hx
      · exact .inr ⟨hr, x, by omega, hnull⟩

/-- The cascade from the first row, for a subnet that is live. -/
theorem cascade_from_start {s : BtMesh} {n : Nat} (hn : ∃ sub ∈ live s.pSub, sub.netIdx = n) :
    (∃ s' rs', netKeyDeleteCascade cfg n (List.range s.pAppKeys.length) (s, []) = some (s', rs') ∧
        CascadeInv s n s.pAppKeys.length s' rs' ∧ none ∉ s.pAppKeys) ∨
      (netKeyDeleteCascade cfg n (List.range s.pAppKeys.length) (s, []) = none ∧
        none ∈ s.pAppKeys) := by
  rw [List.range_eq_range']
  rcases cascade_run cfg hn _ (CascadeInv.start s n) (Nat.zero_add _) with
    ⟨s', rs', hr, hinv, hnull⟩ | ⟨hr, x, -, hnull⟩
  · refine .inl ⟨s', rs', hr, hinv, fun hmem => ?_⟩
    obtain ⟨x, hx⟩ := List.mem_iff_getElem?.mp hmem
    exact hnull x (Nat.zero_le x) hx
  · exact .inr ⟨hr, List.mem_iff_getElem?.mpr ⟨x, hnull⟩⟩

/-- INTERNAL: The subnet row a net-key delete frees, for a subnet that is live. -/
theorem findRow_netIdx_of_live {s : BtMesh} {n : Nat} (hn : ∃ sub ∈ live s.pSub, sub.netIdx = n) :
    ∃ i sub, findRow (·.netIdx == n) s.pSub = some (i, sub) ∧ sub.netIdx = n := by
  obtain ⟨⟨i, sub⟩, hf⟩ := Option.isSome_iff_exists.mp
    ((findRow_isSome (p := (·.netIdx == n)) (t := s.pSub)).mpr (by simpa using hn))
  exact ⟨i, sub, hf, by simpa using (findRow_eq_some hf).2.1⟩

/-- A net-key delete does not return exactly when the subnet is live and some app-key row
is NULL: the cascade reads `net_idx` through that row. -/
theorem netKeyDelete_eq_none_iff (s : BtMesh) (n : Nat) :
    btMeshProvisionerLocalNetKeyDelete cfg s n = none ↔
      (∃ sub ∈ live s.pSub, sub.netIdx = n) ∧ none ∈ s.pAppKeys := by
  unfold btMeshProvisionerLocalNetKeyDelete
  by_cases hn : ∃ sub ∈ live s.pSub, sub.netIdx = n
  · obtain ⟨i, sub, hf, hsub⟩ := findRow_netIdx_of_live hn
    simp only [checkIdx_false_eq_zero.mpr hn, provisionerCheckNetIdx, ne_eq, not_true_eq_false,
      if_false, hf, hsub, Option.map_eq_none', hn, true_and]
    rcases cascade_from_start cfg hn with ⟨s', rs', hr, -, hnull⟩ | ⟨hr, hnull⟩
    · simp [hr, hnull]
    · simp [hr, hnull]
  · have : provisionerCheckNetIdx s n false ≠ 0 := fun h => hn (checkIdx_false_eq_zero.mp h)
    rw [if_pos this]
    exact ⟨Option.noConfusion, fun h => absurd h.1 hn⟩

/-- Right after the network is created on a provisioner with one app-key row, deleting
the primary subnet reads `net_idx` through the NULL app-key row. -/
theorem netKeyDelete_primary_after_netCreate_reads_null :
    KeyReachable smallConfig (btMeshProvisionerNetCreate smallConfig (.succeeding Bytes16.zero)
        (bootState smallConfig 1 1 []) true (some ⟨1, 0, 0⟩)).2 ∧
      (∃ sub ∈ live (btMeshProvisionerNetCreate smallConfig (.succeeding Bytes16.zero)
        (bootState smallConfig 1 1 []) true (some ⟨1, 0, 0⟩)).2.pSub,
          sub.netIdx = bleMeshKeyPrimary) ∧
      btMeshProvisionerLocalNetKeyDelete smallConfig (btMeshProvisionerNetCreate smallConfig
        (.succeeding Bytes16.zero) (bootState smallConfig 1 1 []) true (some ⟨1, 0, 0⟩)).2
        bleMeshKeyPrimary = none :=
  have hlive : ∃ sub ∈ live (btMeshProvisionerNetCreate smallConfig (.succeeding Bytes16.zero)
      (bootState smallConfig 1 1 []) true (some ⟨1, 0, 0⟩)).2.pSub,
        sub.netIdx = bleMeshKeyPrimary := by
    decide
  ⟨.step (.netCreate _ true _) (.init (keyStoreInit_bootState _ 1 1 (by simp [modelSlots]))) rfl,
    hlive, (netKeyDelete_eq_none_iff smallConfig _ _).mpr ⟨hlive, by decide⟩⟩

/-- What a net-key delete that returns does. With the subnet live: it frees the subnet's
row, frees every app-key row bound to the subnet, unbinds their app indices from every
local model, and reports 0 with every inner delete's result 0. With the subnet absent: it
reports -ENODEV and changes nothing. -/
theorem netKeyDelete_some {s s' : BtMesh} {n : Nat} {r : Int} {rs : List Int}
    (h : btMeshProvisionerLocalNetKeyDelete cfg s n = some (r, rs, s')) :
    ((∃ sub ∈ live s.pSub, sub.netIdx = n) ∧ r = 0 ∧ (∀ x ∈ rs, x = 0) ∧
        (∃ i sub, findRow (·.netIdx == n) s.pSub = some (i, sub) ∧ s'.pSub = s.pSub.set i none) ∧
        s'.pAppKeys = s.pAppKeys.map (dropNet n) ∧
        modelSlots s'.elems =
          (modelSlots s.elems).map (List.map (clearSlots (boundAppIdxs n s.pAppKeys)))) ∨
      ((¬∃ sub ∈ live s.pSub, sub.netIdx = n) ∧ r = -enodev ∧ rs = [] ∧ s' = s) := by
  unfold btMeshProvisionerLocalNetKeyDelete at h
  by_cases hn : ∃ sub ∈ live s.pSub, sub.netIdx = n
  · obtain ⟨i, sub, hf, hsub⟩ := findRow_netIdx_of_live hn
    simp only [checkIdx_false_eq_zero.mpr hn, provisionerCheckNetIdx, ne_eq, not_true_eq_false,
      if_false, hf, hsub] at h
    rcases cascade_from_start cfg hn with ⟨s2, rs2, hr, hinv, -⟩ | ⟨hr, -⟩
    · simp only [hr, Option.map_some', Option.some.injEq, Prod.mk.injEq] at h
      obtain ⟨rfl, rfl, rfl⟩ := h
      refine .inl ⟨hn, rfl, hinv.results_zero, ⟨i, sub, hf, by simp [hinv.pSub_eq]⟩, ?_, ?_⟩
      · simpa using hinv.pAppKeys_eq
      · simpa using hinv.slots_eq
    · simp [hr] at h
  · have : provisionerCheckNetIdx s n false ≠ 0 := fun h => hn (checkIdx_false_eq_zero.mp h)
    simp only [this, if_true, ne_eq, not_false_eq_true, Option.some.injEq, Prod.mk.injEq] at h
    exact .inr ⟨hn, h.1.symm, h.2.1.symm, h.2.2.symm⟩

end BleMeshProvisioner

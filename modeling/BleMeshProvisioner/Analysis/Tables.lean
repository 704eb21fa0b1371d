import BleMeshProvisioner.Model.Keys

/-!
# Facts about the tables

The lemmas every later analysis cites instead of unfolding a scan or a write: the converse
of `findRow_eq_some`; how the occupied rows change when one row is written or cleared;
`IdxOk`, the property the two key tables keep (indices below 0x1000, no index on two
occupied rows), with what inserting, clearing and rewriting a row does to it; the two
index checks read as statements about the occupied rows; and what unbinding and binding do
to the set of keys in a model's slots.
-/

set_option autoImplicit false

namespace BleMeshProvisioner

variable {α : Type}

/-! ## Rows -/

/-- INTERNAL: Writing back the element a list already holds changes nothing. -/
theorem set_eq_self_of_getElem? {l : List α} {i : Nat} {a : α} (h : l[i]? = some a) :
    l.set i a = l := by
  apply List.ext_getElem?
  intro j
  rw [List.getElem?_set]
  split
  · subst_vars; simp [h, (List.getElem?_eq_some_iff.mp h).1]
  · rfl

/-- INTERNAL: The scan finds the first occupied row that `p` accepts. -/
theorem findRow_of_first {p : α → Bool} {t : List (Option α)} {i : Nat} {a : α}
    (hi : t[i]? = some (some a)) (hp : p a = true)
    (hb : ∀ j b, j < i → t[j]? = some (some b) → p b = false) : findRow p t = some (i, a) := by
  induction t generalizing i with
  | nil => simp at hi
  | cons o t ih =>
    rw [findRow_cons]
    cases i with
    | zero =>
      simp only [List.getElem?_cons_zero, Option.some.injEq] at hi
      subst hi
      simp [hp]
    | succ i =>
      have hhead : o.any p = false := by
        cases o with
        | none => rfl
        | some b => simpa using hb 0 b (by omega) (by simp)
      rw [hhead, ih (by simpa using hi) fun j b hj hjb => hb (j + 1) b (by omega) (by simpa using hjb)]
      rfl

/-- A first-match scan finds a row exactly when some live entry matches. -/
theorem findRow_isSome {p : α → Bool} {t : List (Option α)} :
    (findRow p t).isSome ↔ ∃ a ∈ live t, p a = true := by
  rw [← not_iff_not, Option.not_isSome_iff_eq_none, findRow_eq_none]
  simp

/-- INTERNAL: Writing a NULL row adds the value to the occupied rows. -/
theorem live_set_free {t : List (Option α)} {i : Nat} {a : α} (h : t[i]? = some none) :
    (live (t.set i (some a))).Perm (a :: live t) := by
  simpa [set_eq_self_of_getElem? h] using
    live_set_some_perm a (List.getElem?_eq_some_iff.mp h).1

/-- INTERNAL: Writing a row of a table with no occupied row leaves that row occupied alone. -/
theorem live_set_of_live_eq_nil {t : List (Option α)} (h : live t = []) (i : Nat) (a : α) :
    live (t.set i (some a)) = if i < t.length then [a] else [] := by
  induction t generalizing i with
  | nil => simp
  | cons o t ih =>
    cases o with
    | some b => simp at h
    | none =>
      cases i with
      | zero => simpa using h
      | succ i => simpa using ih (by simpa using h) i

/-- INTERNAL: Clearing an occupied row removes its value from the occupied rows. -/
theorem live_set_none {t : List (Option α)} {i : Nat} {a : α} (h : t[i]? = some (some a)) :
    (live t).Perm (a :: live (t.set i none)) := by
  simpa using live_perm_of_getElem? h

/-- INTERNAL: With distinct indices, once an occupied row is cleared no occupied row has
its index. -/
theorem idx_ne_of_set_none {f : α → Nat} {t : List (Option α)} (hnd : ((live t).map f).Nodup)
    {i : Nat} {a : α} (h : t[i]? = some (some a)) : ∀ b ∈ live (t.set i none), f b ≠ f a :=
  fun _ hb hba => (List.nodup_cons.mp (((live_set_none h).map f).nodup_iff.mp hnd)).1
    (hba ▸ List.mem_map_of_mem _ hb)

/-! ## Index tables -/

/-- Every occupied row's index is below 0x1000 and no two occupied rows carry the same one. -/
def IdxOk (idxOf : α → Nat) (t : List (Option α)) : Prop :=
  (∀ a ∈ live t, idxOf a < 0x1000) ∧ ((live t).map idxOf).Nodup

/-- Index well-formedness of a table can be decided, so it can be checked on a state. -/
instance (f : α → Nat) (t : List (Option α)) : Decidable (IdxOk f t) :=
  inferInstanceAs (Decidable (_ ∧ _))

/-- A table whose live entries are among another's keeps that table's index
well-formedness. -/
theorem IdxOk.of_sublist {f : α → Nat} {t t' : List (Option α)} (h : IdxOk f t)
    (hs : (live t').Sublist (live t)) : IdxOk f t' :=
  ⟨fun a ha => h.1 a (hs.subset ha), h.2.sublist (hs.map f)⟩

/-- Filling a free row with an entry whose index is below 0x1000 and held by no live
entry keeps index well-formedness. -/
theorem IdxOk.insert {f : α → Nat} {t : List (Option α)} {i : Nat} {a : α} (h : IdxOk f t)
    (hfree : t[i]? = some none) (hlt : f a < 0x1000) (hnew : ∀ b ∈ live t, f b ≠ f a) :
    IdxOk f (t.set i (some a)) := by
  have hp := live_set_free (a := a) hfree
  refine ⟨fun b hb => ?_, ((hp.map f).nodup_iff).mpr (List.nodup_cons.mpr ⟨fun hm => ?_, h.2⟩)⟩
  · rcases List.mem_cons.mp (hp.mem_iff.mp hb) with rfl | hb
    · exact hlt
    · exact h.1 b hb
  · obtain ⟨b, hb, hbe⟩ := List.mem_map.mp hm
    exact hnew b hb hbe

/-- Freeing a row keeps index well-formedness. -/
theorem IdxOk.erase {f : α → Nat} {t : List (Option α)} {i : Nat} {a : α} (h : IdxOk f t)
    (hi : t[i]? = some (some a)) : IdxOk f (t.set i none) := by
  have hp := live_set_none hi
  exact ⟨fun b hb => h.1 b (hp.mem_iff.mpr (List.mem_cons_of_mem a hb)),
    (List.nodup_cons.mp (((hp.map f).nodup_iff).mp h.2)).2⟩

/-- Replacing a live entry with one of the same index keeps index well-formedness. -/
theorem IdxOk.replace {f : α → Nat} {t : List (Option α)} {i : Nat} {a b : α} (h : IdxOk f t)
    (hi : t[i]? = some (some a)) (he : f b = f a) : IdxOk f (t.set i (some b)) := by
  have hp := live_set_none hi
  have hp' := live_set_some_perm b (List.getElem?_eq_some_iff.mp hi).1
  have hmap : ((live (t.set i (some b))).map f).Perm ((live t).map f) :=
    (hp'.map f).trans (by simpa [he] using (hp.map f).symm)
  exact ⟨fun c hc => by
    obtain ⟨d, hd, hde⟩ := List.mem_map.mp (hmap.mem_iff.mp (List.mem_map_of_mem f hc))
    exact hde ▸ h.1 d hd, hmap.nodup_iff.mpr h.2⟩

/-- INTERNAL: An occupied row of a cleared table was an occupied row before. -/
theorem mem_live_of_set_none {t : List (Option α)} {i : Nat} {a b : α}
    (hi : t[i]? = some (some a)) (hb : b ∈ live (t.set i none)) : b ∈ live t :=
  (live_set_none hi).mem_iff.mpr (List.mem_cons_of_mem a hb)

/-! ## The index checks -/

/-- The index check for a new index passes exactly when no live entry holds it. -/
theorem checkIdx_true_eq_zero {f : α → Nat} {t : List (Option α)} {x : Nat} :
    checkIdx f t x true = 0 ↔ ∀ a ∈ live t, f a ≠ x := by
  unfold checkIdx
  by_cases h : (live t).any (f · == x) <;> simp_all [eexist]

/-- The index check for an existing index passes exactly when some live entry holds it. -/
theorem checkIdx_false_eq_zero {f : α → Nat} {t : List (Option α)} {x : Nat} :
    checkIdx f t x false = 0 ↔ ∃ a ∈ live t, f a = x := by
  unfold checkIdx
  by_cases h : (live t).any (f · == x) <;> simp_all [enodev]

/-! ## Model slots -/

/-- INTERNAL: After unbinding the keys in `D`, the slots in use are those in use before that
held no key of `D`. -/
theorem filter_map_clearSlots (D ks : List Nat) :
    (ks.map (clearSlots D)).filter (· != bleMeshKeyUnused) =
      ks.filter fun x => x != bleMeshKeyUnused && !decide (x ∈ D) := by
  induction ks with
  | nil => rfl
  | cons x ks ih =>
    by_cases hx : x ∈ D
    · simp [clearSlots, hx, ih]
    · by_cases hu : x = bleMeshKeyUnused <;> simp [clearSlots, hx, hu, ih]

/-- Marking unused every slot that holds an index of D keeps the slots still in use
distinct. -/
theorem nodup_filter_clearSlots (D ks : List Nat)
    (h : (ks.filter (· != bleMeshKeyUnused)).Nodup) :
    ((ks.map (clearSlots D)).filter (· != bleMeshKeyUnused)).Nodup := by
  rw [filter_map_clearSlots]
  have := h.filter (fun x => !decide (x ∈ D))
  rw [List.filter_filter] at this
  simpa only [Bool.and_comm] using this

/-- INTERNAL: Writing a key into an unused slot adds it to the slots in use. -/
theorem filter_set_unused {ks : List Nat} {k a : Nat} (hk : ks[k]? = some bleMeshKeyUnused)
    (ha : a ≠ bleMeshKeyUnused) :
    ((ks.set k a).filter (· != bleMeshKeyUnused)).Perm (a :: ks.filter (· != bleMeshKeyUnused)) := by
  induction ks generalizing k with
  | nil => simp at hk
  | cons x ks ih =>
    cases k with
    | zero =>
      simp only [List.getElem?_cons_zero, Option.some.injEq] at hk
      subst hk
      simp [ha]
    | succ k =>
      have := ih (by simpa using hk)
      by_cases hx : x = bleMeshKeyUnused
      · simpa [hx] using this
      · simpa [hx] using (this.cons x).trans (List.Perm.swap a x _)

/-- INTERNAL: The slots of a directory in which one model was replaced are those of the old
directory and those of the new model. -/
theorem mem_modelSlots_setModel {elems : List Elem} {ref : ModelRef} {m : Model}
    {ks : List Nat} (h : ks ∈ modelSlots (setModel elems ref m)) :
    ks ∈ modelSlots elems ∨ ks = m.keys := by
  unfold setModel at h
  split at h
  · rename_i e he
    simp only [modelSlots, allModels, List.mem_map, List.mem_flatMap, List.mem_append] at h ⊢
    obtain ⟨m', ⟨e', he', hm'⟩, rfl⟩ := h
    have he_mem : e ∈ elems := List.mem_iff_getElem?.mpr ⟨_, he⟩
    rcases List.mem_or_eq_of_mem_set he' with he' | rfl
    · exact .inl ⟨m', ⟨e', he', hm'⟩, rfl⟩
    · split at hm'
      · rcases hm' with hm' | hm'
        · exact .inl ⟨m', ⟨e, he_mem, .inl hm'⟩, rfl⟩
        · rcases List.mem_or_eq_of_mem_set hm' with hm' | rfl
          · exact .inl ⟨m', ⟨e, he_mem, .inr hm'⟩, rfl⟩
          · exact .inr rfl
      · rcases hm' with hm' | hm'
        · rcases List.mem_or_eq_of_mem_set hm' with hm' | rfl
          · exact .inl ⟨m', ⟨e, he_mem, .inl hm'⟩, rfl⟩
          · exact .inr rfl
        · exact .inl ⟨m', ⟨e, he_mem, .inr hm'⟩, rfl⟩
  · exact .inl h

/-- INTERNAL: Renumbering elements keeps their models. -/
theorem allModels_mapIdx (f : Nat → Elem → Elem)
    (hf : ∀ i e, (f i e).models = e.models ∧ (f i e).vndModels = e.vndModels) (l : List Elem) :
    allModels (l.mapIdx f) = allModels l := by
  induction l generalizing f with
  | nil => rfl
  | cons e l ih =>
    rw [List.mapIdx_cons, allModels_cons, allModels_cons, (hf 0 e).1, (hf 0 e).2,
      ih _ fun i e => hf (i + 1) e]

/-- The local elements renumbered by `bt_mesh_comp_provision` keep every model's slots. -/
@[simp] theorem modelSlots_compProvision (s : BtMesh) (addr : Nat) :
    modelSlots (btMeshCompProvision s addr).elems = modelSlots s.elems := by
  simp only [btMeshCompProvision, modelSlots]
  rw [allModels_mapIdx]
  exact fun _ _ => ⟨rfl, rfl⟩

/-- The local elements renumbered by `bt_mesh_comp_provision` keep every model in its place. -/
@[simp] theorem modelAt_compProvision (s : BtMesh) (addr : Nat) :
    modelAt (btMeshCompProvision s addr).elems = modelAt s.elems := by
  funext ref
  simp only [btMeshCompProvision, modelAt, List.getElem?_mapIdx]
  cases s.elems[ref.elem]? <;> rfl

/-- INTERNAL: A model a reference names has its slots among the directory's. -/
theorem mem_modelSlots_of_modelAt {elems : List Elem} {ref : ModelRef} {m : Model}
    (h : modelAt elems ref = some m) : m.keys ∈ modelSlots elems := by
  obtain ⟨e, he, hm⟩ := Option.bind_eq_some.mp h
  simp only [modelSlots, allModels, List.mem_map, List.mem_flatMap, List.mem_append]
  refine ⟨m, ⟨e, List.getElem?_mem he, ?_⟩, rfl⟩
  split at hm
  · exact .inr (List.getElem?_mem hm)
  · exact .inl (List.getElem?_mem hm)

/-- Replacing the model a reference names changes what that reference names and nothing
else. -/
theorem modelAt_setModel {elems : List Elem} {ref : ModelRef} {m0 : Model}
    (h : modelAt elems ref = some m0) (m : Model) (r : ModelRef) :
    modelAt (setModel elems ref m) r = if r = ref then some m else modelAt elems r := by
  obtain ⟨e, he, hm⟩ := Option.bind_eq_some.mp h
  have hlt := (List.getElem?_eq_some_iff.mp he).1
  have hidx := (List.getElem?_eq_some_iff.mp hm).1
  obtain ⟨re, rv, ri⟩ := r
  obtain ⟨fe, fv, fi⟩ := ref
  dsimp only at he hlt hidx
  unfold setModel modelAt
  dsimp only
  rw [he, List.getElem?_set]
  by_cases hi : fe = re
  · subst hi
    rw [if_pos rfl, if_pos hlt, he]
    cases fv <;> cases rv <;> simp only [Bool.false_eq_true, if_true, if_false] at hidx <;>
      rcases eq_or_ne fi ri with rfl | hri <;> simp [List.getElem?_set, hidx, *, eq_comm]
  · simp [hi, Ne.symm hi]

end BleMeshProvisioner

import BleMeshProvisioner.Analysis.KeyDurable
import BleMeshProvisioner.Analysis.Unbind

/-!
# The durable model records

With `CONFIG_BLE_MESH_SETTINGS` on, the key-store calls write a local model's changes
through to the settings store as they make them: `model_unbind` (`provisioner_main.c:949-968`)
stores the bindings after each slot it frees and `model_pub_clear` (`:920-947`) the
publication it clears, and `bt_mesh_provisioner_bind_local_model_app_idx` (`:1178-1236`)
stores the bindings after it fills a slot. `ModelsDurable` says what a reboot would restore
from the replayed records (`ModelMirror`): a model with a binding record holds exactly the
recorded app indices, one without holds only unused slots, as at boot, and a publication
record is the model's publication.

The app-key delete (`:978-1014`) reaches every model through `bt_mesh_model_foreach`, whose
callback `_model_unbind` (`:970-976`) writes only the records of the model it visits; so
each model's records after the pass are those its own callback left (`foreach_modelRecs`),
and the loop over one model's slots keeps its mirror (`modelUnbind_modelMirror`). The adds,
the net-key cascade's erasures and the fast-provisioning calls write no model record and
move no model (`ModelsDurable.of_log`). `keyRun_modelsDurable` is the run lemma; unlike the
key records, the model records also survive `bt_mesh_provisioner_bind_local_app_net_idx`.
-/

set_option autoImplicit false

namespace BleMeshProvisioner

/-! ## The records of one model -/

/-- The binding and publication records of one model. -/
def Durable.modelRecs (d : Durable) (ref : ModelRef) : Option (List Nat) × Option (Option ModelPub) :=
  (d.modBind ref, d.modPub ref)

@[simp] theorem modelRecs_storeModBind (d : Durable) (ref : ModelRef) (ks : List Nat) :
    (d.apply (.storeModBind ref ks)).modelRecs ref = (some ks, (d.modelRecs ref).2) := by
  simp [Durable.apply, Durable.modelRecs, putRecord]

@[simp] theorem modelRecs_storeModPub (d : Durable) (ref : ModelRef) (p : Option ModelPub) :
    (d.apply (.storeModPub ref p)).modelRecs ref = ((d.modelRecs ref).1, some p) := by
  simp [Durable.apply, Durable.modelRecs, putRecord]

/-- INTERNAL: A notification that writes no record of a model leaves its records. -/
theorem apply_modelRecs_of_ne {e : Effect} {ref : ModelRef} (h : e.modelRef ≠ some ref)
    (d : Durable) : (d.apply e).modelRecs ref = d.modelRecs ref := by
  cases e <;> first
    | rfl
    | (simp only [Effect.modelRef, ne_eq, Option.some.injEq] at h
       simp [Durable.apply, Durable.modelRecs, putRecord, Ne.symm h])

/-- INTERNAL: Notifications that write no record of a model leave its records. -/
theorem foldl_modelRecs_of_ne {es : List Effect} {ref : ModelRef}
    (h : ∀ e ∈ es, e.modelRef ≠ some ref) (d : Durable) :
    (es.foldl Durable.apply d).modelRecs ref = d.modelRecs ref := by
  induction es generalizing d with
  | nil => rfl
  | cons e es ih =>
    rw [List.foldl_cons, ih (fun e' he' => h e' (List.mem_cons_of_mem _ he')),
      apply_modelRecs_of_ne (h e (List.mem_cons_self _ _))]

/-- INTERNAL: A model's records after a log depend only on its records before it. -/
theorem foldl_modelRecs_congr (es : List Effect) {ref : ModelRef} {d d' : Durable}
    (h : d.modelRecs ref = d'.modelRecs ref) :
    (es.foldl Durable.apply d).modelRecs ref = (es.foldl Durable.apply d').modelRecs ref := by
  induction es generalizing d d' with
  | nil => exact h
  | cons e es ih =>
    simp only [Durable.modelRecs, Prod.mk.injEq] at h
    refine ih ?_
    cases e <;> simp only [Durable.apply, Durable.modelRecs, putRecord, h.1, h.2]

/-! ## The pass over every model -/

/-- The model at a place of the first element is read from that element's SIG or vendor
list. -/
theorem modelAt_cons_zero (e : Elem) (es : List Elem) (v : Bool) (x : Nat) :
    modelAt (e :: es) ⟨0, v, x⟩ = (if v then e.vndModels else e.models)[x]? := by
  simp [modelAt]

/-- The model at a place of a later element is read from the elements after the first. -/
theorem modelAt_cons_succ (e : Elem) (es : List Elem) (k : Nat) (v : Bool) (x : Nat) :
    modelAt (e :: es) ⟨k + 1, v, x⟩ = modelAt es ⟨k, v, x⟩ := by
  simp [modelAt]

section Foreach

variable (f : ModelRef → Model → Model × List Effect)

/-- The records of model `ref` once its callback has run on `mo`, the model found there, if
any. -/
def recsAfter (ref : ModelRef) (mo : Option Model) (d : Durable) :
    Option (List Nat) × Option (Option ModelPub) :=
  match mo with
  | some m => ((f ref m).2.foldl Durable.apply d).modelRecs ref
  | none => d.modelRecs ref

/-- The records after a callback depend only on the model's own records before it. -/
theorem recsAfter_congr (ref : ModelRef) (mo : Option Model) {d d' : Durable}
    (h : d.modelRecs ref = d'.modelRecs ref) : recsAfter f ref mo d = recsAfter f ref mo d' := by
  cases mo with
  | none => exact h
  | some m => exact foldl_modelRecs_congr _ h

variable (hf : ∀ ref m, ∀ e ∈ (f ref m).2, e.modelRef = some ref)
include hf

/-- INTERNAL: A pass over a list of models, the `k`-th at reference `r (j + k)`, leaves each
visited model's records as its own callback left them and every other model's alone. -/
theorem foreachList_modelRecs (r : Nat → ModelRef) (hr : Function.Injective r) (j : Nat)
    (ms : List Model) (d : Durable) :
    (∀ k, ((foreachList (fun x => f (r x)) j ms).2.foldl Durable.apply d).modelRecs (r (j + k)) =
      recsAfter f (r (j + k)) ms[k]? d) ∧
    ∀ ref, (∀ x, j ≤ x → r x ≠ ref) →
      ((foreachList (fun x => f (r x)) j ms).2.foldl Durable.apply d).modelRecs ref =
        d.modelRecs ref := by
  induction ms generalizing j d with
  | nil => exact ⟨fun _ => rfl, fun _ _ => rfl⟩
  | cons m ms ih =>
    have hfirst : ∀ ref, r j ≠ ref →
        ((f (r j) m).2.foldl Durable.apply d).modelRecs ref = d.modelRecs ref :=
      fun ref hne => foldl_modelRecs_of_ne (fun e he => by
        rw [hf _ m e he]; exact fun h => hne (Option.some.inj h)) d
    obtain ⟨ih1, ih2⟩ := ih (j + 1) ((f (r j) m).2.foldl Durable.apply d)
    simp only [foreachList, List.foldl_append]
    refine ⟨fun k => ?_, fun ref href => ?_⟩
    · cases k with
      | zero =>
        rw [Nat.add_zero, List.getElem?_cons_zero]
        exact ih2 (r j) fun x hx he => absurd (hr he) (by omega)
      | succ k =>
        rw [show j + (k + 1) = j + 1 + k by omega, ih1 k, List.getElem?_cons_succ]
        exact recsAfter_congr f _ _ (hfirst (r (j + 1 + k)) fun he => absurd (hr he) (by omega))
    · rw [ih2 ref fun x hx => href x (by omega), hfirst ref (href j le_rfl)]

/-- INTERNAL: The pass over the elements from place `i` leaves the records of the model at
place `k` of the list as its own callback left them, and the records of a model before
place `i` alone. -/
theorem foreachElems_modelRecs (i : Nat) (elems : List Elem) (d : Durable) :
    (∀ k v x, ((foreachElems f i elems).2.foldl Durable.apply d).modelRecs ⟨i + k, v, x⟩ =
      recsAfter f ⟨i + k, v, x⟩ (modelAt elems ⟨k, v, x⟩) d) ∧
    ∀ ref : ModelRef, ref.elem < i →
      ((foreachElems f i elems).2.foldl Durable.apply d).modelRecs ref = d.modelRecs ref := by
  induction elems generalizing i d with
  | nil => exact ⟨fun _ _ _ => rfl, fun _ _ => rfl⟩
  | cons e es ih =>
    have inj : ∀ v, Function.Injective fun x => (⟨i, v, x⟩ : ModelRef) :=
      fun v x y h => (ModelRef.mk.inj h).2.2
    have hm := foreachList_modelRecs f hf _ (inj false) 0 e.models d
    have hv := foreachList_modelRecs f hf _ (inj true) 0 e.vndModels
      ((foreachList (fun x => f ⟨i, false, x⟩) 0 e.models).2.foldl Durable.apply d)
    obtain ⟨ih1, ih2⟩ := ih (i + 1) (((foreachList (fun x => f ⟨i, true, x⟩) 0 e.vndModels).2.foldl
      Durable.apply ((foreachList (fun x => f ⟨i, false, x⟩) 0 e.models).2.foldl Durable.apply d)))
    simp only [Nat.zero_add] at hm hv
    have helem : ∀ ref : ModelRef, ref.elem ≠ i → ∀ v x, (⟨i, v, x⟩ : ModelRef) ≠ ref :=
      fun ref hne v x he => hne (he ▸ rfl)
    simp only [foreachElems, List.foldl_append]
    refine ⟨fun k v x => ?_, fun ref href => ?_⟩
    · cases k with
      | zero =>
        simp only [Nat.add_zero, modelAt_cons_zero]
        rw [ih2 ⟨i, v, x⟩ (Nat.lt_succ_self i)]
        cases v with
        | false =>
          rw [hv.2 ⟨i, false, x⟩ fun y _ he => by cases he]
          exact hm.1 x
        | true =>
          rw [hv.1 x]
          exact recsAfter_congr f _ _ (hm.2 ⟨i, true, x⟩ fun y _ he => by cases he)
      | succ k =>
        rw [show i + (k + 1) = i + 1 + k by omega, ih1 k v x, modelAt_cons_succ]
        refine recsAfter_congr f _ _ ?_
        rw [hv.2 _ fun y _ => helem ⟨i + 1 + k, v, x⟩ (by dsimp only; omega) true y,
          hm.2 _ fun y _ => helem ⟨i + 1 + k, v, x⟩ (by dsimp only; omega) false y]
    · rw [ih2 ref (by omega), hv.2 _ fun y _ => helem ref (by omega) true y,
        hm.2 _ fun y _ => helem ref (by omega) false y]

/-- A `bt_mesh_model_foreach` pass whose callback writes only the records of the model it
visits leaves every model's records as its own callback left them. -/
theorem foreach_modelRecs (elems : List Elem) (d : Durable) (ref : ModelRef) :
    ((btMeshModelForeach f elems).2.foldl Durable.apply d).modelRecs ref =
      recsAfter f ref (modelAt elems ref) d := by
  obtain ⟨k, v, x⟩ := ref
  simpa using (foreachElems_modelRecs f hf 0 elems d).1 k v x

end Foreach

/-- A pass whose callback leaves every model as `g` maps it leaves the model a reference
names as `g` maps it. -/
theorem modelAt_foreach (f : ModelRef → Model → Model × List Effect) (g : Model → Model)
    (hg : ∀ r m, (f r m).1 = g m) (elems : List Elem) (ref : ModelRef) :
    modelAt (btMeshModelForeach f elems).1 ref = (modelAt elems ref).map g := by
  rw [foreach_fst f g hg, modelAt, modelAt, List.getElem?_map]
  cases elems[ref.elem]? with
  | none => rfl
  | some e => cases ref.vnd <;> simp [List.getElem?_map]

/-! ## Records that mirror the composition -/

/-- A model's durable records mirror it: a binding record, if any, is its slots, and
without one every slot is unused, as the composition has it at boot; a publication record,
if any, is its publication. -/
def ModelMirror (m : Model) (r : Option (List Nat) × Option (Option ModelPub)) : Prop :=
  (r.1 = some m.keys ∨ (r.1 = none ∧ ∀ k ∈ m.keys, k = bleMeshKeyUnused)) ∧
    ∀ p, r.2 = some p → p = m.pub

/-- The durable records of every local model mirror it. -/
def ModelsDurable (s : BtMesh) : Prop :=
  ∀ ref m, modelAt s.elems ref = some m → ModelMirror m ((replay s.effects).modelRecs ref)

section Mirror

variable {s s' : BtMesh}

/-- A state whose models are the old ones and whose log grew only by notifications that
write no model record is mirrored too. -/
theorem ModelsDurable.of_log (h : ModelsDurable s) (hel : modelAt s'.elems = modelAt s.elems)
    {es : List Effect} (hlog : s'.effects = s.effects ++ es) (hes : ∀ e ∈ es, e.modelRef = none) :
    ModelsDurable s' := by
  intro ref m hm
  rw [hlog, replay_append, foldl_modelRecs_of_ne fun e he => by rw [hes e he]; nofun]
  exact h ref m (hel ▸ hm)

/-- Only the models at each place and the log take part in the model mirror. -/
theorem ModelsDurable.congr (h : ModelsDurable s) (hel : modelAt s'.elems = modelAt s.elems)
    (hlog : s'.effects = s.effects) : ModelsDurable s' := by
  intro ref m hm
  rw [hlog]
  exact h ref m (hel ▸ hm)

/-- A composition whose slots are all unused, with nothing logged, is mirrored by the empty
store. -/
theorem KeyStoreInit.modelsDurable (h : KeyStoreInit s) (he : s.effects = []) :
    ModelsDurable s := by
  intro ref m hm
  rw [he]
  exact ⟨.inr ⟨rfl, h.slots_unused _ (mem_modelSlots_of_modelAt hm)⟩, nofun⟩

end Mirror

/-! ## One lemma per call -/

section Calls

variable (cfg : Config) (hset : cfg.settings = true) {s : BtMesh}
include hset

/-- INTERNAL: `model_pub_clear` leaves the model, or sets a publication it stores. -/
theorem modelPubClear_cases (ref : ModelRef) (m : Model) :
    modelPubClear cfg ref m = (m, []) ∨
      ∃ p, modelPubClear cfg ref m = ({ m with pub := some p }, [.storeModPub ref (some p)]) := by
  unfold modelPubClear
  split
  · exact .inl rfl
  split
  · exact .inl rfl
  · exact .inr ⟨_, rfl⟩

/-- INTERNAL: A round of the loop of `model_unbind` keeps the model's records its mirror:
a slot it frees, it stores with the others, and a publication it clears, it stores. -/
theorem modelUnbindSlot_modelMirror (ref : ModelRef) (a : Nat) (d : Durable)
    (acc : Model × List Effect) (h : ModelMirror acc.1 ((acc.2.foldl Durable.apply d).modelRecs ref))
    (i : Nat) :
    ModelMirror (modelUnbindSlot cfg ref a acc i).1
      (((modelUnbindSlot cfg ref a acc i).2.foldl Durable.apply d).modelRecs ref) := by
  unfold modelUnbindSlot
  split
  · rcases modelPubClear_cases cfg hset ref { acc.1 with keys := acc.1.keys.set i bleMeshKeyUnused }
      with he | ⟨p, he⟩ <;>
      simp only [he, hset, if_true, List.append_nil, List.foldl_append, List.foldl_cons,
        List.foldl_nil, modelRecs_storeModBind, modelRecs_storeModPub]
    · exact ⟨.inl rfl, h.2⟩
    · exact ⟨.inl rfl, fun q hq => (Option.some.inj hq).symm⟩
  · exact h

/-- `model_unbind` keeps the model's records its mirror. -/
theorem modelUnbind_modelMirror (ref : ModelRef) (m : Model) (a : Nat) (d : Durable)
    (h : ModelMirror m (d.modelRecs ref)) :
    ModelMirror (modelUnbind cfg ref m a).1
      (((modelUnbind cfg ref m a).2.foldl Durable.apply d).modelRecs ref) := by
  suffices ∀ (is : List Nat) (acc : Model × List Effect),
      ModelMirror acc.1 ((acc.2.foldl Durable.apply d).modelRecs ref) →
      ModelMirror (is.foldl (modelUnbindSlot cfg ref a) acc).1
        (((is.foldl (modelUnbindSlot cfg ref a) acc).2.foldl Durable.apply d).modelRecs ref) from
    this _ _ h
  intro is
  induction is with
  | nil => exact fun _ h => h
  | cons i is ih =>
    exact fun acc hacc => ih _ (modelUnbindSlot_modelMirror cfg hset ref a d acc hacc i)

/-- An app-key delete keeps the durable model records: its pass over every model leaves
each model's records as that model's own unbinding left them, and the key's erasure writes
none. -/
theorem appKeyDelete_modelsDurable (h : ModelsDurable s) (n a : Nat) :
    ModelsDurable (btMeshProvisionerLocalAppKeyDelete cfg s n a).2 := by
  rcases appKeyDelete_cases cfg s n a with hfail | ⟨hn, i, key, hf⟩
  · rw [hfail]; exact h
  rw [appKeyDelete_eq_of_findRow cfg hn hf]
  intro ref m' hm'
  obtain ⟨m, hm, rfl⟩ := Option.map_eq_some'.mp
    ((modelAt_foreach _ _ (fun _ m => modelUnbind_eq cfg m) s.elems ref).symm.trans hm')
  simp only [persist_effects, hset, if_true, replay_append, List.foldl_cons, List.foldl_nil]
  rw [@apply_modelRecs_of_ne (.clearPAppKey key) ref nofun,
    foreach_modelRecs _ (fun r m => modelUnbind_modelRef cfg r m a), hm, recsAfter,
    ← @modelUnbind_eq cfg ref a m]
  exact modelUnbind_modelMirror cfg hset ref m a _ (h ref m hm)

/-- A net-key delete that returns keeps the durable model records: its cascade is a run of
app-key deletes, and the subnet's erasure writes no model record. -/
theorem netKeyDelete_modelsDurable (h : ModelsDurable s) {n : Nat} {r : Int} {rs : List Int}
    {s' : BtMesh} (hs : btMeshProvisionerLocalNetKeyDelete cfg s n = some (r, rs, s')) :
    ModelsDurable s' :=
  netKeyDelete_preserves cfg ModelsDurable (fun _ n a ht => appKeyDelete_modelsDurable cfg hset ht n a)
    (fun _ _ _ ht => ht.of_log rfl rfl (by simp [hset, Effect.modelRef])) hs h

/-- A net-key add keeps the durable model records. -/
theorem netKeyAdd_modelsDurable (h : ModelsDurable s) (env : Env) (k : Option Bytes16)
    (r : Option Nat) : ModelsDurable (btMeshProvisionerLocalNetKeyAdd cfg env s k r).2.2 := by
  obtain ⟨hout, -, hlog, -⟩ := netKeyAdd_outcome_log cfg env s k r
  have hel : modelAt (btMeshProvisionerLocalNetKeyAdd cfg env s k r).2.2.elems = modelAt s.elems := by
    rcases hout with ⟨-, -, hs'⟩ | ⟨-, hs', -⟩ | ⟨-, -, _, _, _, _, -, -, -, -, -, -, -, -, hs', -⟩ <;>
      rw [hs']
  rcases hlog with ⟨heff, -⟩ | ⟨_, _, _, -, -, heff⟩
  · exact h.congr hel heff
  · exact h.of_log hel (by rw [heff, List.append_assoc]) (by simp [hset, Effect.modelRef])

/-- An app-key add keeps the durable model records. -/
theorem appKeyAdd_modelsDurable (h : ModelsDurable s) (env : Env) (k : Option Bytes16) (n : Nat)
    (r : Option Nat) : ModelsDurable (btMeshProvisionerLocalAppKeyAdd cfg env s k n r).2.2 := by
  obtain ⟨hout, -, hlog, -⟩ := appKeyAdd_outcome_log cfg env s k n r
  have hel : modelAt (btMeshProvisionerLocalAppKeyAdd cfg env s k n r).2.2.elems =
      modelAt s.elems := by
    rcases hout with ⟨-, -, hs'⟩ | ⟨-, hs', -⟩ |
      ⟨-, -, -, _, _, _, _, -, -, -, -, -, -, -, -, hs', -⟩ <;> rw [hs']
  rcases hlog with ⟨heff, -⟩ | ⟨_, _, _, -, -, heff⟩
  · exact h.congr hel heff
  · exact h.of_log hel (by rw [heff, List.append_assoc]) (by simp [hset, Effect.modelRef])

/-- `bt_mesh_provisioner_net_create` keeps the durable model records: renumbering the
elements moves no model, and it logs only key-store records. -/
theorem netCreate_modelsDurable (h : ModelsDurable s) (env : Env) (comp : Bool)
    (prov : Option ProvInfo) : ModelsDurable (btMeshProvisionerNetCreate cfg env s comp prov).2 := by
  obtain ⟨-, ⟨hel, -⟩, ⟨-, heff⟩ | ⟨-, _, -, -, _, _, heff⟩, -⟩ :=
    @netCreate_outcome_log cfg env s _ comp prov rfl
  · exact h.congr hel heff
  · exact h.of_log hel (by rw [heff, List.append_assoc, List.append_assoc, List.append_assoc])
      (by simp [hset, Effect.modelRef])

/-- Binding an app key to a local model keeps the durable model records: the slot it fills,
it stores with the others, and no other model changes. -/
theorem bindModel_modelsDurable (h : ModelsDurable s) (e m c a : Nat) :
    ModelsDurable (btMeshProvisionerBindLocalModelAppIdx cfg s e m c a).2 := by
  obtain ⟨-, -, ⟨hel, heff⟩ | ⟨ref, model, k, hat, -, -, -, hel, heff⟩⟩ :=
    bindModel_outcome_log cfg (e := e) (m := m) (c := c) (a := a) rfl
  · exact h.congr (by rw [hel]) heff
  intro r m' hm'
  rw [hel, modelAt_setModel hat] at hm'
  simp only [heff, hset, if_true, replay_append, List.foldl_cons, List.foldl_nil]
  by_cases hr : r = ref
  · subst hr
    rw [if_pos rfl] at hm'
    cases hm'
    rw [modelRecs_storeModBind]
    exact ⟨.inl rfl, (h r model hat).2⟩
  · rw [if_neg hr] at hm'
    rw [@apply_modelRecs_of_ne (.storeModBind ref (model.keys.set k a)) r
      fun he => hr (Option.some.inj (he : some ref = some r)).symm]
    exact h r m' hm'

omit hset in
/-- Rebinding an app key to a subnet writes no model record. -/
theorem bindAppNetIdx_modelsDurable (h : ModelsDurable s) (n a : Nat) :
    ModelsDurable (btMeshProvisionerBindLocalAppNetIdx s n a).2 := by
  rcases bindAppNetIdx_cases (n := n) (a := a) (s := s) rfl with h' | ⟨-, _, _, -, h'⟩ <;>
    rw [h'] <;> exact h.congr rfl rfl

omit hset in
/-- Recording the fast-provisioning index writes no model record. -/
theorem setFastProvNetIdx_modelsDurable (h : ModelsDurable s) (i : Nat) :
    ModelsDurable (btMeshSetFastProvNetIdx s i).2 := by
  unfold btMeshSetFastProvNetIdx provisionerSetFastProvNetIdx
  split <;> exact h.congr rfl rfl

/-- Adding a fast-provisioning net key keeps the durable model records, as the net-key add
it makes does. -/
theorem addFastProvNetKey_modelsDurable (h : ModelsDurable s) (env : Env) (k : Option Bytes16) :
    ModelsDurable (btMeshAddFastProvNetKey cfg env s k).2 := by
  obtain ⟨-, -, hel, heff⟩ := addFastProvNetKey_tables cfg env s k
  exact (netKeyAdd_modelsDurable cfg hset (s := { s with pNetIdxNext := s.fastProvNetIdx })
    (h.congr rfl rfl) env k (some s.fastProvNetIdx)).congr (by rw [hel]) heff

/-- Every key-store call that returns keeps the durable model records. -/
theorem keyStep_modelsDurable (h : ModelsDurable s) {op : KeyOp} {s' : BtMesh}
    (hs : keyStep cfg s op = some s') : ModelsDurable s' := by
  cases op with
  | netCreate env comp prov => cases hs; exact netCreate_modelsDurable cfg hset h env comp prov
  | netKeyAdd env k i => cases hs; exact netKeyAdd_modelsDurable cfg hset h env k i
  | netKeyDelete n =>
    obtain ⟨⟨r, rs, s''⟩, hd, rfl⟩ := Option.map_eq_some'.mp hs
    exact netKeyDelete_modelsDurable cfg hset h hd
  | appKeyAdd env k n i => cases hs; exact appKeyAdd_modelsDurable cfg hset h env k n i
  | appKeyDelete n a => cases hs; exact appKeyDelete_modelsDurable cfg hset h n a
  | bindAppNetIdx n a => cases hs; exact bindAppNetIdx_modelsDurable h n a
  | bindModelAppIdx e m c a => cases hs; exact bindModel_modelsDurable cfg hset h e m c a
  | setFastProvNetIdx i => cases hs; exact setFastProvNetIdx_modelsDurable h i
  | addFastProvNetKey env k => cases hs; exact addFastProvNetKey_modelsDurable cfg hset h env k

/-- With the settings store on, over every run of key-store calls that return, from a state
whose durable model records mirror its composition, they mirror it at the end: a model with
a binding record holds exactly the recorded app indices, one without holds only unused
slots, and a stored publication is the model's publication. Every slot the calls fill or
free and every publication they clear reached the settings store. -/
theorem keyRun_modelsDurable (h : ModelsDurable s) (ops : List KeyOp) {s' : BtMesh}
    (hrun : keyRun cfg s ops = some s') : ModelsDurable s' := by
  induction ops generalizing s with
  | nil => cases hrun; exact h
  | cons op ops ih =>
    obtain ⟨s1, hs1, hrun⟩ := Option.bind_eq_some.mp hrun
    exact ih (keyStep_modelsDurable cfg hset h hs1) hrun

end Calls

/-- A key store with the settings store on, one subnet row, two app-key rows and one element
at address 0 whose model, id 0x1000, has two unused slots and publishes to group address
0xC000. -/
def modelBoot : BtMesh :=
  bootState settingsConfig 1 2 [⟨0, [⟨0x1000, 0xFFFF, [bleMeshKeyUnused, bleMeshKeyUnused],
    some ⟨0xC000, 0, 0, 5, 0, 0, 0, false, false⟩⟩], []⟩]

/-- The network created at address 1, app key 0 added and bound to the model, app key 1
added and bound to it, then app key 0 deleted. -/
def modelOps : List KeyOp :=
  [.netCreate (.succeeding (testKey 1)) true (some ⟨1, 0, 0⟩),
    .appKeyAdd (.succeeding (testKey 2)) (some (testKey 2)) 0 (some 0xFFFF),
    .bindModelAppIdx 1 0x1000 0xFFFF 0,
    .appKeyAdd (.succeeding (testKey 3)) (some (testKey 3)) 0 (some 0xFFFF),
    .bindModelAppIdx 1 0x1000 0xFFFF 1,
    .appKeyDelete 0 0]

/-- The state `modelOps` leaves (`modelBoot` had it not returned). -/
def modelEnd : BtMesh := (keyRun settingsConfig modelBoot modelOps).getD modelBoot

/-- The run `modelOps` returns, the model's stored bindings are the freed slot and app key 1,
and every model's records mirror it. -/
theorem keyRun_modelsDurable_modelOps :
    keyRun settingsConfig modelBoot modelOps = some modelEnd ∧
      (replay modelEnd.effects).modBind ⟨0, false, 0⟩ = some [bleMeshKeyUnused, 1] ∧
      ModelsDurable modelEnd :=
  have hrun : keyRun settingsConfig modelBoot modelOps = some modelEnd := rfl
  ⟨hrun, by decide, keyRun_modelsDurable settingsConfig rfl
    ((keyStoreInit_bootState _ 1 2 (by decide)).modelsDurable rfl) modelOps hrun⟩

end BleMeshProvisioner

import BleMeshProvisioner.Analysis.KeyInvariant
import BleMeshProvisioner.Analysis.Durable

/-!
# The durable key store

With `CONFIG_BLE_MESH_SETTINGS` every call that writes a subnet or an app key into a row
notifies the settings store (`bt_mesh_store_p_subnet`, `bt_mesh_store_p_app_key`), and every
call that frees a row erases its record (`bt_mesh_clear_p_subnet`,
`bt_mesh_clear_p_app_key`), the rows the net-key cascade frees included. `KeysDurable` says
that the records the log replays to are the tables: an index has a record exactly when an
occupied row carries it, and the record is that row (`RecordsMirror`).

The proof follows the calls:

* an add writes its key into a free row under an index no occupied row has and logs it
  (`NetKeyAddLog`, `AppKeyAddLog`), so the mirror gains one record (`RecordsMirror.insert`);
* an app-key delete logs only binding and publication notifications while it unbinds the
  key, then erases the record of the row it frees (`RecordsMirror.erase`); with indices
  distinct, no other row had that index;
* the net-key cascade is a run of app-key deletes, so it keeps the mirror and the distinct
  app indices by induction over the rows, and the subnet's own erase comes last;
* `bt_mesh_provisioner_net_create` writes the primary subnet into row 0 of an empty table,
  which needs the table to have a row;
* the bindings and fast-provisioning calls write no key record.

`keyRun_keysDurable` is the run lemma. It excludes `bt_mesh_provisioner_bind_local_app_net_idx`,
which changes a key's `net_idx` with no notification (`Analysis/Durable`).
-/

set_option autoImplicit false

namespace BleMeshProvisioner

/-! ## Records that mirror a table -/

section Mirror

variable {α : Type} {f : α → Nat} {t : List (Option α)} {rec : Nat → Option α}

/-- The durable records of a table, keyed by `f`, mirror it: an index has a record exactly
when an occupied row has that index, and the record is that row. -/
def RecordsMirror (f : α → Nat) (t : List (Option α)) (rec : Nat → Option α) : Prop :=
  ∀ i a, rec i = some a ↔ a ∈ live t ∧ f a = i

/-- Writing a row with a fresh index into a free row, and its record, keeps the mirror. -/
theorem RecordsMirror.insert (h : RecordsMirror f t rec) {add : Nat} {a : α}
    (hfree : t[add]? = some none) (hnew : ∀ b ∈ live t, f b ≠ f a) :
    RecordsMirror f (t.set add (some a)) (putRecord rec (f a) (some a)) := by
  intro i b
  simp only [putRecord, (live_set_free hfree).mem_iff, List.mem_cons]
  by_cases hi : i = f a
  · subst hi
    rw [if_pos rfl]
    constructor
    · rintro ⟨⟩; exact ⟨.inl rfl, rfl⟩
    · rintro ⟨rfl | hb, he⟩
      · rfl
      · exact absurd he (hnew b hb)
  · rw [if_neg hi, h i b]
    constructor
    · exact fun ⟨hb, he⟩ => ⟨.inr hb, he⟩
    · rintro ⟨rfl | hb, he⟩
      · exact absurd he.symm hi
      · exact ⟨hb, he⟩

/-- Freeing a row, and erasing its record, keeps the mirror when indices are distinct. -/
theorem RecordsMirror.erase (h : RecordsMirror f t rec) (hnd : ((live t).map f).Nodup) {i : Nat}
    {a : α} (hrow : t[i]? = some (some a)) :
    RecordsMirror f (t.set i none) (putRecord rec (f a) none) := by
  have hfresh := idx_ne_of_set_none hnd hrow
  intro j b
  simp only [putRecord]
  by_cases hj : j = f a
  · subst hj
    rw [if_pos rfl]
    exact ⟨fun h => Option.noConfusion h, fun ⟨hb, he⟩ => absurd he (hfresh b hb)⟩
  · rw [if_neg hj, h j b, (live_set_none hrow).mem_iff, List.mem_cons]
    constructor
    · rintro ⟨rfl | hb, he⟩
      · exact absurd he.symm hj
      · exact ⟨hb, he⟩
    · exact fun ⟨hb, he⟩ => ⟨.inr hb, he⟩

/-- INTERNAL: A row written into a free row is the one a write of the same row finds. -/
theorem set_some_inj {add : Nat} {a b : α} (hfree : t[add]? = some none)
    (he : t.set add (some a) = t.set add (some b)) : a = b := by
  have hlt := (List.getElem?_eq_some_iff.mp hfree).1
  have := congrArg (·[add]?) he
  simpa [List.getElem?_set_self hlt] using this

/-- INTERNAL: A write into a free row is a change of the table. -/
theorem set_some_ne_of_free {add : Nat} (hfree : t[add]? = some none) (a : α) : t.set add (some a) ≠ t := fun he => by
  have hlt := (List.getElem?_eq_some_iff.mp hfree).1
  have := congrArg (·[add]?) he
  simp [List.getElem?_set_self hlt, hfree] at this

end Mirror

/-! ## Notifications that write no key record -/

/-- Whether a notification leaves the subnet and app-key records alone: all but the four
that write or erase one. -/
def Effect.keepsKeyRecords : Effect → Bool
  | .storePSubnet _ | .clearPSubnet _ | .storePAppKey _ | .clearPAppKey _ => false
  | _ => true

/-- INTERNAL: Replaying notifications that keep the key records keeps them. -/
theorem foldl_apply_keyRecords (es : List Effect) (hes : ∀ e ∈ es, e.keepsKeyRecords = true)
    (d : Durable) :
    (es.foldl Durable.apply d).subnet = d.subnet ∧ (es.foldl Durable.apply d).appKey = d.appKey := by
  induction es generalizing d with
  | nil => exact ⟨rfl, rfl⟩
  | cons e es ih =>
    obtain ⟨h1, h2⟩ := ih (fun e' he' => hes e' (List.mem_cons_of_mem _ he')) (d.apply e)
    have he := hes e (List.mem_cons_self _ _)
    rw [List.foldl_cons, h1, h2]
    cases e <;> first | exact ⟨rfl, rfl⟩ | cases he

section Unbind

variable (cfg : Config) {P : Effect → Prop}

/-- INTERNAL: A pass over a list of models whose callback issues only notifications with
`P` issues only those. -/
theorem foreachList_effects (g : Nat → Model → Model × List Effect)
    (hg : ∀ j m, ∀ e ∈ (g j m).2, P e) (j : Nat) (ms : List Model) :
    ∀ e ∈ (foreachList g j ms).2, P e := by
  induction ms generalizing j with
  | nil => intro e he; cases he
  | cons m ms ih =>
    intro e he
    rcases List.mem_append.mp he with he | he
    · exact hg j m e he
    · exact ih (j + 1) e he

/-- A `bt_mesh_model_foreach` pass whose callback issues only notifications with `P`
issues only those. -/
theorem foreach_effects (g : ModelRef → Model → Model × List Effect)
    (hg : ∀ r m, ∀ e ∈ (g r m).2, P e) (elems : List Elem) :
    ∀ e ∈ (btMeshModelForeach g elems).2, P e := by
  suffices ∀ i, ∀ e ∈ (foreachElems g i elems).2, P e from this 0
  induction elems with
  | nil => intro _ e he; cases he
  | cons el es ih =>
    intro i e he
    simp only [foreachElems, List.mem_append] at he
    rcases he with (he | he) | he
    · exact foreachList_effects _ (fun j m => hg _ m) 0 _ e he
    · exact foreachList_effects _ (fun j m => hg _ m) 0 _ e he
    · exact ih (i + 1) e he

/-- The model whose records a notification writes, if any. -/
def Effect.modelRef : Effect → Option ModelRef
  | .storeModBind ref _ | .storeModPub ref _ => some ref
  | _ => none

/-- INTERNAL: A notification that writes a model's records keeps the key records. -/
theorem keepsKeyRecords_of_modelRef {e : Effect} {ref : ModelRef} (h : e.modelRef = some ref) :
    e.keepsKeyRecords = true := by
  cases e <;> first | rfl | cases h

/-- INTERNAL: `model_pub_clear` issues at most the model's publication notification. -/
theorem modelPubClear_modelRef (ref : ModelRef) (m : Model) :
    ∀ e ∈ (modelPubClear cfg ref m).2, e.modelRef = some ref := by
  intro e he
  unfold modelPubClear at he
  split at he
  · simp at he
  split at he
  · simp at he
  simp only [List.mem_ite_nil_right, List.mem_singleton] at he
  rw [he.2]; rfl

/-- INTERNAL: A round of the loop of `model_unbind` adds at most the model's binding and
publication notifications. -/
theorem modelUnbindSlot_modelRef (ref : ModelRef) (a : Nat) (acc : Model × List Effect)
    (hacc : ∀ e ∈ acc.2, e.modelRef = some ref) (i : Nat) :
    ∀ e ∈ (modelUnbindSlot cfg ref a acc i).2, e.modelRef = some ref := by
  unfold modelUnbindSlot
  split
  · intro e he
    rcases List.mem_append.mp he with he | he
    · rcases List.mem_append.mp he with he | he
      · exact hacc e he
      · rw [List.mem_ite_nil_right, List.mem_singleton] at he
        rw [he.2]; rfl
    · exact modelPubClear_modelRef cfg ref _ e he
  · exact hacc

/-- INTERNAL: `model_unbind` issues only the model's binding and publication
notifications. -/
theorem modelUnbind_modelRef (ref : ModelRef) (m : Model) (a : Nat) :
    ∀ e ∈ (modelUnbind cfg ref m a).2, e.modelRef = some ref := by
  suffices ∀ (is : List Nat) (acc : Model × List Effect), (∀ e ∈ acc.2, e.modelRef = some ref) →
      ∀ e ∈ (is.foldl (modelUnbindSlot cfg ref a) acc).2, e.modelRef = some ref from
    this _ _ nofun
  intro is
  induction is with
  | nil => exact fun _ h => h
  | cons i is ih => exact fun acc hacc => ih _ (modelUnbindSlot_modelRef cfg ref a acc hacc i)

end Unbind

/-! ## The durable key store -/

/-- The durable subnet and app-key records, replayed from the log, mirror the two tables. -/
structure KeysDurable (s : BtMesh) : Prop where
  subnets : RecordsMirror Subnet.netIdx s.pSub (replay s.effects).subnet
  appKeys : AppKeysMirror s (replay s.effects)

/-- A state whose tables are the old ones and whose log grew only by notifications that
keep the key records is mirrored too. -/
theorem KeysDurable.of_log {s s' : BtMesh} (h : KeysDurable s) (hsub : s'.pSub = s.pSub)
    (hkeys : s'.pAppKeys = s.pAppKeys) {es : List Effect} (hlog : s'.effects = s.effects ++ es)
    (hes : ∀ e ∈ es, e.keepsKeyRecords = true) : KeysDurable s' := by
  obtain ⟨h1, h2⟩ := foldl_apply_keyRecords es hes (replay s.effects)
  constructor
  · rw [hsub, hlog, replay_append, h1]; exact h.subnets
  · show RecordsMirror _ _ _
    rw [hkeys, hlog, replay_append, h2]; exact h.appKeys

/-- Only the two key tables and the log take part in the key mirror. -/
theorem KeysDurable.congr {s s' : BtMesh} (h : KeysDurable s) (hsub : s'.pSub = s.pSub)
    (hkeys : s'.pAppKeys = s.pAppKeys) (hlog : s'.effects = s.effects) : KeysDurable s' :=
  h.of_log hsub hkeys (hlog.trans (List.append_nil _).symm) fun _ h => absurd h (List.not_mem_nil _)

/-- An empty key store that has notified nothing is mirrored by the empty store. -/
theorem KeyStoreInit.keysDurable {s : BtMesh} (h : KeyStoreInit s) (he : s.effects = []) :
    KeysDurable s := by
  have hsub : live s.pSub = [] :=
    List.eq_nil_iff_forall_not_mem.mpr fun a ha => by simpa using h.pSub_empty _ (mem_live.mp ha)
  have hkeys : live s.pAppKeys = [] :=
    List.eq_nil_iff_forall_not_mem.mpr fun a ha => by simpa using h.pAppKeys_empty _ (mem_live.mp ha)
  constructor
  · intro i a; simp [he, hsub, replay, Durable.empty]
  · intro i a; simp [he, hkeys, replay, Durable.empty]

/-! ## One lemma per call -/

section Calls

variable (cfg : Config) (hset : cfg.settings = true) {s : BtMesh}
include hset

/-- A net-key add keeps the durable key store: the subnet it writes into a row, it stores. -/
theorem netKeyAdd_keysDurable (h : KeysDurable s) (env : Env) (k : Option Bytes16)
    (r : Option Nat) : KeysDurable (btMeshProvisionerLocalNetKeyAdd cfg env s k r).2.2 := by
  obtain ⟨hout, -, hlog, -⟩ := netKeyAdd_outcome_log cfg env s k r
  rcases hout with ⟨-, -, hs'⟩ | ⟨-, hs', -⟩ |
      ⟨-, -, add, i, pKey, nid, hadd, -, hnew, -, -, -, hsub, hkeys, -, -⟩
  · rw [hs']; exact h.congr rfl rfl rfl
  · rw [hs']; exact h
  have hfree := (firstFreeIn_eq_some.mp hadd).2.2.1
  rcases hlog with ⟨-, hsame⟩ | ⟨add', c, sub, hadd', hsub', heff⟩
  · exact absurd (hsub.symm.trans hsame) (set_some_ne_of_free hfree _)
  obtain rfl := Option.some.inj (hadd'.symm.trans hadd)
  have hnew' : ∀ b ∈ live s.pSub, b.netIdx ≠ sub.netIdx :=
    set_some_inj hfree (hsub'.symm.trans hsub) ▸ hnew
  have hrep : replay (btMeshProvisionerLocalNetKeyAdd cfg env s k r).2.2.effects =
      ((replay s.effects).apply (.storePNetIdx c)).apply (.storePSubnet sub) := by
    rw [heff]; simp only [hset, if_true, replay_append, List.foldl_cons, List.foldl_nil]
  constructor
  · rw [hsub', hrep]; exact h.subnets.insert hfree hnew'
  · show RecordsMirror _ _ _
    rw [hkeys, hrep]; exact h.appKeys

/-- An app-key add keeps the durable key store: the key it writes into a row, it stores. -/
theorem appKeyAdd_keysDurable (h : KeysDurable s) (env : Env) (k : Option Bytes16) (n : Nat)
    (r : Option Nat) : KeysDurable (btMeshProvisionerLocalAppKeyAdd cfg env s k n r).2.2 := by
  obtain ⟨hout, -, hlog, -⟩ := appKeyAdd_outcome_log cfg env s k n r
  rcases hout with ⟨-, -, hs'⟩ | ⟨-, hs', -⟩ |
      ⟨-, -, -, add, i, pKey, aid, hadd, -, hnew, -, -, -, hkeys, hsub, -, -⟩
  · rw [hs']; exact h.congr rfl rfl rfl
  · rw [hs']; exact h
  have hfree := (firstFreeIn_eq_some.mp hadd).2.2.1
  rcases hlog with ⟨-, hsame⟩ | ⟨add', c, key, hadd', hkeys', heff⟩
  · exact absurd (hkeys.symm.trans hsame) (set_some_ne_of_free hfree _)
  obtain rfl := Option.some.inj (hadd'.symm.trans hadd)
  have hnew' : ∀ b ∈ live s.pAppKeys, b.appIdx ≠ key.appIdx :=
    set_some_inj hfree (hkeys'.symm.trans hkeys) ▸ hnew
  have hrep : replay (btMeshProvisionerLocalAppKeyAdd cfg env s k n r).2.2.effects =
      ((replay s.effects).apply (.storePAppIdx c)).apply (.storePAppKey key) := by
    rw [heff]; simp only [hset, if_true, replay_append, List.foldl_cons, List.foldl_nil]
  constructor
  · rw [hsub, hrep]; exact h.subnets
  · show RecordsMirror _ _ _
    rw [hkeys', hrep]; exact RecordsMirror.insert h.appKeys hfree hnew'

/-- `bt_mesh_provisioner_net_create` keeps the durable key store, on a subnet table with a
row: the primary subnet it writes into row 0, it stores. -/
theorem netCreate_keysDurable (h : KeysDurable s) (hrows : s.pSub ≠ []) (env : Env) (comp : Bool)
    (prov : Option ProvInfo) : KeysDurable (btMeshProvisionerNetCreate cfg env s comp prov).2 := by
  obtain ⟨hkeys, -, ⟨hsub, heff⟩ | ⟨hnone, sub, -, hsub, iv, up, heff⟩, -⟩ :=
    @netCreate_outcome_log cfg env s _ comp prov rfl
  · exact h.congr hsub hkeys heff
  have hlive : live s.pSub = [] :=
    List.eq_nil_iff_forall_not_mem.mpr fun a ha => by simpa using hnone _ (mem_live.mp ha)
  have hfree : s.pSub[0]? = some none := by
    obtain ⟨o, os, hos⟩ := List.exists_cons_of_ne_nil hrows
    rw [hos, List.getElem?_cons_zero, hnone o (hos ▸ List.mem_cons_self o os)]
  have hrep : replay (btMeshProvisionerNetCreate cfg env s comp prov).2.effects =
      ((((replay s.effects).apply (.storePNetIdx 1)).apply (.storePAppIdx 0)).apply
        (.storePSubnet sub)).apply (.storeIv iv up) := by
    rw [heff]; simp only [hset, if_true, replay_append, List.foldl_cons, List.foldl_nil]
  constructor
  · rw [hsub, hrep]; exact h.subnets.insert hfree (by simp [hlive])
  · show RecordsMirror _ _ _
    rw [hkeys, hrep]; exact h.appKeys

/-- An app-key delete keeps the durable key store when app indices are distinct: it erases
the record of the row it frees, and its unbinding pass writes no key record. It keeps the
indices distinct and the subnet table. -/
theorem appKeyDelete_keysDurable (h : KeysDurable s) (hidx : IdxOk AppKey.appIdx s.pAppKeys)
    (n a : Nat) :
    KeysDurable (btMeshProvisionerLocalAppKeyDelete cfg s n a).2 ∧
      IdxOk AppKey.appIdx (btMeshProvisionerLocalAppKeyDelete cfg s n a).2.pAppKeys ∧
      (btMeshProvisionerLocalAppKeyDelete cfg s n a).2.pSub = s.pSub := by
  rcases appKeyDelete_cases cfg s n a with hfail | ⟨hn, i, key, hf⟩
  · rw [hfail]; exact ⟨h, hidx, rfl⟩
  rw [appKeyDelete_eq_of_findRow cfg hn hf]
  have hrow := (findRow_eq_some hf).1
  obtain ⟨h1, h2⟩ := foldl_apply_keyRecords _
    (foreach_effects _ (fun r m e he => keepsKeyRecords_of_modelRef (modelUnbind_modelRef cfg r m a e he))
      s.elems) (replay s.effects)
  refine ⟨⟨?_, ?_⟩, hidx.erase hrow, rfl⟩
  · simp only [persist_effects, persist_pSub, hset, if_true, replay_append, List.foldl_cons,
      List.foldl_nil, Durable.apply, h1]
    exact h.subnets
  · show RecordsMirror _ _ _
    simp only [persist_effects, hset, if_true, replay_append, List.foldl_cons, List.foldl_nil,
      Durable.apply, h2]
    exact RecordsMirror.erase h.appKeys hidx.2 hrow

/-- INTERNAL: The net-key cascade, a run of app-key deletes, keeps the durable key store,
the distinct app indices and the subnet table. -/
theorem cascade_keysDurable {n : Nat} (js : List Nat) {s2 : BtMesh} {rs rs2 : List Int}
    (hc : netKeyDeleteCascade cfg n js (s, rs) = some (s2, rs2)) (h : KeysDurable s)
    (hidx : IdxOk AppKey.appIdx s.pAppKeys) :
    KeysDurable s2 ∧ IdxOk AppKey.appIdx s2.pAppKeys ∧ s2.pSub = s.pSub := by
  induction js generalizing s rs with
  | nil => cases hc; exact ⟨h, hidx, rfl⟩
  | cons j js ih =>
    simp only [netKeyDeleteCascade] at hc
    split at hc
    · rename_i key _
      split at hc
      · obtain ⟨h', hidx', hsub'⟩ := appKeyDelete_keysDurable cfg hset h hidx key.netIdx key.appIdx
        obtain ⟨h'', hidx'', hsub''⟩ := ih hc h' hidx'
        exact ⟨h'', hidx'', hsub''.trans hsub'⟩
      · exact ih hc h hidx
    · cases hc

/-- A net-key delete that returns keeps the durable key store, from a state that keeps the
key-store invariant: the cascade erases the records of the app keys it frees, and the
subnet's record is erased with its row. -/
theorem netKeyDelete_keysDurable (hinv : KeyStoreInv s) (h : KeysDurable s) {n : Nat} {r : Int}
    {rs : List Int} {s' : BtMesh} (hs : btMeshProvisionerLocalNetKeyDelete cfg s n = some (r, rs, s')) :
    KeysDurable s' := by
  unfold btMeshProvisionerLocalNetKeyDelete at hs
  split_ifs at hs
  · cases hs; exact h
  split at hs
  · cases hs; exact h
  rename_i i sub hf
  obtain ⟨⟨s2, rs2⟩, hc, he⟩ := Option.map_eq_some'.mp hs
  cases he
  obtain ⟨h2, -, hsub2⟩ := cascade_keysDurable cfg hset _ hc h hinv.appKeys
  have hrow : s2.pSub[i]? = some (some sub) := hsub2 ▸ (findRow_eq_some hf).1
  have hnd : ((live s2.pSub).map Subnet.netIdx).Nodup := hsub2 ▸ hinv.subnets.2
  constructor
  · simp only [persist_effects, hset, if_true, replay_append, List.foldl_cons, List.foldl_nil,
      Durable.apply, persist_pSub]
    exact h2.subnets.erase hnd hrow
  · show RecordsMirror _ _ _
    simp only [persist_effects, persist_pAppKeys, hset, if_true, replay_append, List.foldl_cons,
      List.foldl_nil, Durable.apply]
    exact h2.appKeys

/-- Binding an app key to a local model writes no key record. -/
theorem bindModel_keysDurable (h : KeysDurable s) (e m c a : Nat) :
    KeysDurable (btMeshProvisionerBindLocalModelAppIdx cfg s e m c a).2 := by
  obtain ⟨hsub, hkeys, ⟨-, heff⟩ | ⟨_, _, _, -, -, -, -, -, heff⟩⟩ :=
    bindModel_outcome_log cfg (e := e) (m := m) (c := c) (a := a) rfl
  · exact h.congr hsub hkeys heff
  · exact h.of_log hsub hkeys heff fun x hx => by
      simp only [hset, if_true, List.mem_singleton] at hx; subst hx; rfl

omit hset in
/-- Recording the fast-provisioning index writes no key record. -/
theorem setFastProvNetIdx_keysDurable (h : KeysDurable s) (i : Nat) :
    KeysDurable (btMeshSetFastProvNetIdx s i).2 := by
  unfold btMeshSetFastProvNetIdx provisionerSetFastProvNetIdx
  split <;> exact h.congr rfl rfl rfl

/-- Adding a fast-provisioning net key keeps the durable key store: it is a net-key add
from the state with the cursor pinned, then a record of the index. -/
theorem addFastProvNetKey_keysDurable (h : KeysDurable s) (env : Env) (k : Option Bytes16) :
    KeysDurable (btMeshAddFastProvNetKey cfg env s k).2 := by
  have hadd := netKeyAdd_keysDurable cfg hset (s := { s with pNetIdxNext := s.fastProvNetIdx })
    (h.congr rfl rfl rfl) env k (some s.fastProvNetIdx)
  unfold btMeshAddFastProvNetKey provisionerSetFastProvNetIdx
  dsimp only
  split
  · exact hadd
  · split
    · exact hadd
    · exact hadd.congr rfl rfl rfl

end Calls

/-! ## Whole runs -/

section Runs

variable (cfg : Config) {s s' : BtMesh}

/-- INTERNAL: No key-store call changes the number of subnet rows. -/
theorem keyStep_pSub_length {op : KeyOp} (hs : keyStep cfg s op = some s') :
    s'.pSub.length = s.pSub.length := by
  have hadd : ∀ env s k r, (btMeshProvisionerLocalNetKeyAdd cfg env s k r).2.2.pSub.length =
      s.pSub.length := fun env s k r => by
    rcases netKeyAdd_outcome cfg env s k r with
      ⟨-, -, h⟩ | ⟨-, h, -⟩ | ⟨-, -, _, _, _, _, -, -, -, -, -, -, h, -⟩
    · rw [h]
    · rw [h]
    · rw [h, List.length_set]
  cases op with
  | netCreate env comp prov =>
    cases hs
    obtain ⟨-, -, h | ⟨-, _, -, h⟩⟩ := @netCreate_cases cfg env s _ comp prov rfl
    · rw [h]
    · rw [h, List.length_set]
  | netKeyAdd env k i => cases hs; exact hadd env s k i
  | netKeyDelete n =>
    obtain ⟨⟨r, rs, s''⟩, hd, rfl⟩ := Option.map_eq_some'.mp hs
    rcases netKeyDelete_some cfg hd with ⟨-, -, -, ⟨_, _, -, h⟩, -⟩ | ⟨-, -, -, rfl⟩
    · rw [h, List.length_set]
    · rfl
  | appKeyAdd env k n i =>
    cases hs
    rcases appKeyAdd_outcome cfg env s k n i with ⟨-, -, h⟩ | ⟨-, h, -⟩ |
      ⟨-, -, -, _, _, _, _, -, -, -, -, -, -, -, h, -⟩ <;> rw [h]
  | appKeyDelete n a =>
    cases hs
    rcases appKeyDelete_cases cfg s n a with h | ⟨hn, _, _, hf⟩
    · rw [h]
    · rw [appKeyDelete_eq_of_findRow cfg hn hf]; rfl
  | bindAppNetIdx n a =>
    cases hs
    rcases bindAppNetIdx_cases (n := n) (a := a) (s := s) rfl with h | ⟨-, _, _, -, h⟩ <;> rw [h]
  | bindModelAppIdx e m c a => cases hs; rw [(bindModel_cases cfg (e := e) (m := m) (c := c) (a := a) rfl).1]
  | setFastProvNetIdx i => cases hs; rw [(setFastProvNetIdx_tables s i).1]
  | addFastProvNetKey env k =>
    cases hs
    rw [(addFastProvNetKey_tables cfg env s k).1, hadd]

variable (hset : cfg.settings = true)
include hset

/-- Every key-store call but `bt_mesh_provisioner_bind_local_app_net_idx` that returns keeps
the durable key store, from a state that keeps the key-store invariant and has a subnet
row. -/
theorem keyStep_keysDurable (hinv : KeyStoreInv s) (h : KeysDurable s) (hrows : s.pSub ≠ [])
    {op : KeyOp} (hop : ∀ n a, op ≠ .bindAppNetIdx n a) (hs : keyStep cfg s op = some s') :
    KeysDurable s' := by
  cases op with
  | netCreate env comp prov => cases hs; exact netCreate_keysDurable cfg hset h hrows env comp prov
  | netKeyAdd env k i => cases hs; exact netKeyAdd_keysDurable cfg hset h env k i
  | netKeyDelete n =>
    obtain ⟨⟨r, rs, s''⟩, hd, rfl⟩ := Option.map_eq_some'.mp hs
    exact netKeyDelete_keysDurable cfg hset hinv h hd
  | appKeyAdd env k n i => cases hs; exact appKeyAdd_keysDurable cfg hset h env k n i
  | appKeyDelete n a => cases hs; exact (appKeyDelete_keysDurable cfg hset h hinv.appKeys n a).1
  | bindAppNetIdx n a => exact absurd rfl (hop n a)
  | bindModelAppIdx e m c a => cases hs; exact bindModel_keysDurable cfg hset h e m c a
  | setFastProvNetIdx i => cases hs; exact setFastProvNetIdx_keysDurable h i
  | addFastProvNetKey env k => cases hs; exact addFastProvNetKey_keysDurable cfg hset h env k

/-- With the settings store on, over every run of key-store calls that return and that
never rebind an app key to another subnet, from a state that keeps the key-store invariant,
has a subnet row and whose durable key records are its tables, the durable subnet and
app-key records are the tables at the end: every write and every free, the net-key
cascade's included, reached the settings store. -/
theorem keyRun_keysDurable (hinv : KeyStoreInv s) (h : KeysDurable s) (hrows : s.pSub ≠ [])
    (ops : List KeyOp) (hops : ∀ op ∈ ops, ∀ n a, op ≠ .bindAppNetIdx n a)
    (hrun : keyRun cfg s ops = some s') : KeysDurable s' := by
  induction ops generalizing s with
  | nil => cases hrun; exact h
  | cons op ops ih =>
    obtain ⟨s1, hs1, hrun⟩ := Option.bind_eq_some.mp hrun
    have hrows1 : s1.pSub ≠ [] :=
      List.ne_nil_of_length_pos (keyStep_pSub_length cfg hs1 ▸ List.length_pos.mpr hrows)
    exact ih (keyStep_keyStoreInv cfg hinv hs1)
      (keyStep_keysDurable cfg hset hinv h hrows (hops op (List.mem_cons_self _ _)) hs1) hrows1
      (fun op' h' => hops op' (List.mem_cons_of_mem _ h')) hrun

end Runs

/-- A key store with the settings store on, two subnet rows and one app-key row, at boot. -/
def durableBoot : BtMesh := bootState settingsConfig 2 1 []

/-- The network created with key 1, a subnet with key 2 added at the next free index, an
app key with key 3 added for that subnet, then that subnet deleted. -/
def durableOps : List KeyOp :=
  [.netCreate (.succeeding (testKey 1)) true (some ⟨1, 0, 0⟩),
    .netKeyAdd (.succeeding (testKey 2)) (some (testKey 2)) (some 0xFFFF),
    .appKeyAdd (.succeeding (testKey 3)) (some (testKey 3)) 1 (some 0xFFFF),
    .netKeyDelete 1]

/-- The state `durableOps` leaves (`durableBoot` had it not returned). -/
def durableEnd : BtMesh := (keyRun settingsConfig durableBoot durableOps).getD durableBoot

/-- The run `durableOps` returns, leaves the primary subnet alone in the table and no app
key, and the durable records are the tables. -/
theorem keyRun_keysDurable_durableOps :
    keyRun settingsConfig durableBoot durableOps = some durableEnd ∧
      (live durableEnd.pSub).map (·.netIdx) = [0] ∧ live durableEnd.pAppKeys = [] ∧
      KeysDurable durableEnd :=
  have hrun : keyRun settingsConfig durableBoot durableOps = some durableEnd := rfl
  have hops : ∀ op ∈ durableOps, ∀ n a, op ≠ .bindAppNetIdx n a := by
    intro op hop n a
    simp only [durableOps, List.mem_cons, List.mem_nil_iff, or_false] at hop
    rcases hop with rfl | rfl | rfl | rfl <;> exact KeyOp.noConfusion
  ⟨hrun, by decide, by decide,
    keyRun_keysDurable settingsConfig rfl (by decide)
      ((keyStoreInit_bootState _ 2 1 (by decide)).keysDurable rfl) (by decide) durableOps hops hrun⟩

end BleMeshProvisioner

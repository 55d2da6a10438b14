import Autopilot.Proofs.TombstoneStep

/-!
# The label check and the writes that race it

`reconcileTombstone` checks the ownership label on the object its `Get`
returned, then deletes by name, with no UID or resourceVersion precondition.
Between the two requests the reconciler is suspended, and any other actor may
write the key. So the guard is only as good as the window is quiet: a user who
strips the label after the `Get` still has the object deleted under them
(`deletesOnlyLabelled_fails`).

Two facts survive every interleaving. Whatever the reconciler holds between
its requests passed the label check and is exactly what its own `Get` of that
tombstone was served: that `Get` is its last request, and only other actors'
writes came after it (`HeldFetched`, preserved by every step, writes
included). And when no write
lands on the held key, the object stays where the `Get` found it, so every
served `Delete` removes a labelled object (`Guarded`). Both are step lemmas
lifted to runs by induction on the run.

Last, the system with no other writer is the loop of `ReconcileTombstones`:
its end state is reachable (`reconcileEach_reachable`) and, the steps being
deterministic, it is the only state where the loop stops
(`reconcileEach_unique_end`).
-/

namespace Autopilot

open Relation

variable (r : TombstoneReconciler) (hco : Unstructured)

/-! ## What each step does to the world -/

/-- The `Get` either finishes the tombstone, changing no object and logging
itself, or hands over the labelled object it was served. -/
theorem fetchStep_cases (t : TombstoneMetadata) (rest : List TombstoneMetadata) (s : Sys) :
    (∃ res w', fetchStep r hco t rest s =
        ⟨⟨rest, none, countDeleted res s.loop.deleted, collectError res s.loop.errors⟩, w'⟩ ∧
      w'.objects = s.world.objects ∧
      w'.audit = s.world.audit ++ [.get t.key (s.world.getAnswer t.key)]) ∨
    (∃ live, s.world.getAnswer t.key = .ok live ∧ live.HasManagedByLabel ∧
      fetchStep r hco t rest s =
        ⟨{ s.loop with pending := rest, fetched := some (t, live) }, (s.world.get t.key).2⟩) := by
  unfold fetchStep
  rcases fetchTombstone_cases r t hco s.world with
    ⟨e, -, -, h⟩ | ⟨e, -, -, h⟩ | ⟨o, -, -, h⟩ | ⟨o, ho, hl, h⟩ <;> rw [h]
  · exact .inl ⟨_, _, rfl, by simp, by simp⟩
  · exact .inl ⟨_, _, rfl, by simp, by simp⟩
  · exact .inl ⟨_, _, rfl, by simp, by simp⟩
  · exact .inr ⟨o, ho, hl, rfl⟩

/-- The `Delete` releases the held tombstone and logs itself with the object it
acted on. -/
theorem deleteStep_world (t : TombstoneMetadata) (s : Sys) :
    (deleteStep r hco t s).loop.fetched = none ∧
    (deleteStep r hco t s).world.objects = (s.world.delete t.key).2.objects ∧
    (deleteStep r hco t s).world.audit =
      s.world.audit ++ [.delete t.key (s.world.objects t.key) (s.world.deleteAnswer t.key)] := by
  unfold deleteStep
  rcases deleteTombstone_cases r t hco s.world with ⟨e, -, h⟩ | ⟨-, h⟩ <;> simp [h]

/-! ## What the reconciler holds -/

/-- An exchange another actor caused. -/
def Exchange.isWrite : Exchange → Bool
  | .write .. => true
  | _ => false

/-- Since an audit log `audit₀`: the object held between `Get` and `Delete`
carries the label, and the reconciler's last request is the `Get` of the held
tombstone's key that was served it, with only other actors' writes after it. -/
def Sys.HeldFetched (audit₀ : List Exchange) (s : Sys) : Prop :=
  ∃ new, s.world.audit = audit₀ ++ new ∧
    ∀ t live, s.loop.fetched = some (t, live) → live.HasManagedByLabel ∧
      ∃ before writes, new = before ++ Exchange.get t.key (.ok live) :: writes ∧
        ∀ x ∈ writes, x.isWrite

theorem Sys.HeldFetched.step {A : Sys → ObjKey → Prop} {audit₀ : List Exchange} {s s' : Sys}
    (hs : Step r hco A s s') (h : s.HeldFetched audit₀) : s'.HeldFetched audit₀ := by
  obtain ⟨new, ha, hheld⟩ := h
  cases hs with
  | @fetch t rest _ _ =>
    rcases fetchStep_cases r hco t rest s with ⟨res, w', he, -, haud⟩ | ⟨live, ho, hl, he⟩ <;>
      rw [he]
    · exact ⟨_, by rw [haud, ha, List.append_assoc], fun _ _ h' => by cases h'⟩
    · refine ⟨_, by rw [World.get_audit, ha, List.append_assoc], ?_⟩
      rintro _ _ ⟨⟩
      exact ⟨hl, new, [], by rw [ho], by simp⟩
  | @delete t _ _ =>
    obtain ⟨hnone, -, haud⟩ := deleteStep_world r hco t s
    exact ⟨_, by rw [haud, ha, List.append_assoc], fun _ _ h' => by simp [hnone] at h'⟩
  | write k o _ =>
    refine ⟨new ++ [.write k o], by simp [World.write, ha], fun t live h' => ?_⟩
    obtain ⟨hl, before, writes, hnew, hw⟩ := hheld t live h'
    refine ⟨hl, before, writes ++ [.write k o], by simp [hnew], ?_⟩
    exact List.forall_mem_append.mpr ⟨hw, by simp [Exchange.isWrite]⟩

/-! ## The guard when the held key is left alone -/

/-- Since an audit log `audit₀`: the held object is labelled and still stored
under its key, and every served `Delete` removed a labelled object. -/
def Sys.Guarded (audit₀ : List Exchange) (s : Sys) : Prop :=
  (∀ t live, s.loop.fetched = some (t, live) →
    live.HasManagedByLabel ∧ s.world.objects t.key = some live) ∧
  ∃ new, s.world.audit = audit₀ ++ new ∧
    ∀ k o, Exchange.delete k (some o) (.ok ()) ∈ new → o.HasManagedByLabel

theorem Sys.Guarded.step {audit₀ : List Exchange} {s s' : Sys}
    (hs : Step r hco awayFromFetched s s') (h : s.Guarded audit₀) : s'.Guarded audit₀ := by
  obtain ⟨hheld, new, ha, hnew⟩ := h
  cases hs with
  | @fetch t rest _ _ =>
    rcases fetchStep_cases r hco t rest s with ⟨res, w', he, hobj, haud⟩ | ⟨live, ho, hl, he⟩ <;>
      rw [he]
    · refine ⟨fun _ _ h' => (by cases h'), new ++ [.get t.key (s.world.getAnswer t.key)],
        by simp [haud, ha], by simpa using hnew⟩
    · refine ⟨by rintro _ _ ⟨⟩; exact ⟨hl, by simp [World.getAnswer_ok ho]⟩,
        new ++ [.get t.key (s.world.getAnswer t.key)], by simp [ha], by simpa using hnew⟩
  | @delete t live hf =>
    obtain ⟨hnone, -, haud⟩ := deleteStep_world r hco t s
    obtain ⟨hl, hobj⟩ := hheld t live hf
    refine ⟨by simp [hnone], new ++ [_], by rw [haud, ha, List.append_assoc], ?_⟩
    simp only [List.mem_append, List.mem_singleton, hobj, Exchange.delete.injEq,
      Option.some.injEq]
    rintro k o (hm | ⟨-, rfl, -⟩)
    exacts [hnew k o hm, hl]
  | write k o hk =>
    refine ⟨fun t live h' => ?_, new ++ [.write k o], by simp [World.write, ha],
      by simpa using hnew⟩
    obtain ⟨hl, hobj⟩ := hheld t live h'
    exact ⟨hl, by simp [World.write, Function.update_noteq (hk t live h').symm, hobj]⟩

/-- Every state of a run keeps an invariant that holds at its start and that
each step keeps. -/
theorem ReflTransGen.invariant {α : Type} {R : α → α → Prop} {P : α → Prop} {a b : α}
    (hrun : ReflTransGen R a b) (hstep : ∀ {x y}, R x y → P x → P y) (ha : P a) : P b := by
  induction hrun with
  | refl => exact ha
  | tail _ hxy ih => exact hstep hxy ih

/-! ## Where the guard fails -/

/-- Every served `Delete` of the reconciler, in any interleaving with any
writes, removes an object carrying the ownership label. -/
def DeletesOnlyLabelled : Prop :=
  ∀ (r : TombstoneReconciler) (hco : Unstructured) (ts : List TombstoneMetadata) (w : World)
    (s : Sys), ReflTransGen (Step r hco anyWrite) (Sys.init ts w) s →
    ∀ new, s.world.audit = w.audit ++ new →
    ∀ k o, Exchange.delete k (some o) (.ok ()) ∈ new → o.HasManagedByLabel

/-- A ConfigMap the operator created, with the ownership label. -/
def ownedConfigMap : Unstructured :=
  ⟨[("apiVersion", .string "v1"), ("kind", .string "ConfigMap"),
    ("metadata", .object [("name", .string "retired"), ("namespace", .string "default"),
      ("labels", .object [(TombstoneLabel, .string TombstoneLabelValue)])])]⟩

/-- The same ConfigMap after a user took it over by dropping the label. -/
def adoptedConfigMap : Unstructured :=
  ⟨[("apiVersion", .string "v1"), ("kind", .string "ConfigMap"),
    ("metadata", .object [("name", .string "retired"), ("namespace", .string "default")])]⟩

/-- Its tombstone. -/
def ownedTombstone : TombstoneMetadata := tombstoneOf "tombstones/retired.yaml" ownedConfigMap

/-- A cluster holding only the labelled ConfigMap. -/
def ownedWorld : World :=
  ⟨fun k => if k = ownedTombstone.key then some ownedConfigMap else none, "2026-01-01T00:00:00Z",
    [], [], [], []⟩

/-- The reconciler after its `Get` of the labelled ConfigMap. -/
def adoptionFetched : Sys :=
  fetchStep ⟨false⟩ ⟨[]⟩ ownedTombstone [] (Sys.init [ownedTombstone] ownedWorld)

/-- Then the user's write dropping the label, and the reconciler's `Delete`. -/
def adoptionRace : Sys :=
  deleteStep ⟨false⟩ ⟨[]⟩ ownedTombstone
    { adoptionFetched with
      world := adoptionFetched.world.write ownedTombstone.key (some adoptedConfigMap) }

/-- The ConfigMap adopted between the `Get` and the `Delete` is deleted. -/
theorem deletesOnlyLabelled_fails : ¬ DeletesOnlyLabelled := fun h => by
  have hrun : ReflTransGen (Step ⟨false⟩ ⟨[]⟩ anyWrite)
      (Sys.init [ownedTombstone] ownedWorld) adoptionRace :=
    ((ReflTransGen.single (Step.fetch rfl rfl)).tail (Step.write _ _ trivial)).tail
      (Step.delete rfl)
  have haudit : adoptionRace.world.audit = ownedWorld.audit ++
      [.get ownedTombstone.key (.ok ownedConfigMap),
        .write ownedTombstone.key (some adoptedConfigMap),
        .delete ownedTombstone.key (some adoptedConfigMap) (.ok ())] := rfl
  have := h _ _ _ _ _ hrun _ haudit ownedTombstone.key adoptedConfigMap (by simp)
  revert this; decide

/-! ## What holds in every interleaving -/

/-- In every interleaving with any writes, the reconciler only ever holds a
labelled object exactly as its own last request, the `Get` of the held
tombstone, was served it, with only other actors' writes since; and when no
write touches the held key between `Get` and `Delete`, every served `Delete`
removes a labelled object. -/
theorem tombstone_label_guard (ts : List TombstoneMetadata) (w : World) :
    (∀ s, ReflTransGen (Step r hco anyWrite) (Sys.init ts w) s →
      ∃ new, s.world.audit = w.audit ++ new ∧
        ∀ t live, s.loop.fetched = some (t, live) → live.HasManagedByLabel ∧
          ∃ before writes, new = before ++ Exchange.get t.key (.ok live) :: writes ∧
            ∀ x ∈ writes, x.isWrite) ∧
    (∀ s, ReflTransGen (Step r hco awayFromFetched) (Sys.init ts w) s →
      ∃ new, s.world.audit = w.audit ++ new ∧
        ∀ k o, Exchange.delete k (some o) (.ok ()) ∈ new → o.HasManagedByLabel) :=
  ⟨fun s hrun => show s.HeldFetched w.audit from ReflTransGen.invariant hrun
      (Sys.HeldFetched.step r hco) ⟨[], by simp, fun _ _ h => by simp at h⟩,
    fun _ hrun => (ReflTransGen.invariant hrun (Sys.Guarded.step r hco)
      ⟨fun _ _ h => (by simp at h), [], by simp, by simp⟩).2⟩

/-! ## With no other writer, the system is the loop -/

/-- One tombstone of the loop, as one or two steps. -/
theorem reconcileTombstone_reachable {A : Sys → ObjKey → Prop} (t : TombstoneMetadata)
    (rest : List TombstoneMetadata) (n : Nat) (errs : List String) (w : World) :
    ReflTransGen (Step r hco A) ⟨⟨t :: rest, none, n, errs⟩, w⟩
      ⟨⟨rest, none, countDeleted (reconcileTombstone r t hco w).1 n,
        collectError (reconcileTombstone r t hco w).1 errs⟩, (reconcileTombstone r t hco w).2⟩ := by
  have h₁ : Step r hco A ⟨⟨t :: rest, none, n, errs⟩, w⟩
      (fetchStep r hco t rest ⟨⟨t :: rest, none, n, errs⟩, w⟩) := .fetch rfl rfl
  unfold fetchStep at h₁
  dsimp only at h₁
  revert h₁
  unfold reconcileTombstone
  rcases fetchTombstone r t hco w with ⟨_ | live, w'⟩ <;> intro h₁
  · exact .single h₁
  · exact (ReflTransGen.single h₁).tail (Step.delete rfl)

/-- The loop's end state is reached by the system's steps. -/
theorem reconcileEach_reachable {A : Sys → ObjKey → Prop} (ts : List TombstoneMetadata)
    (n : Nat) (errs : List String) (w : World) :
    ReflTransGen (Step r hco A) ⟨⟨ts, none, n, errs⟩, w⟩
      ⟨⟨[], none, (reconcileEach r hco ts n errs w).1.1, (reconcileEach r hco ts n errs w).1.2⟩,
        (reconcileEach r hco ts n errs w).2⟩ := by
  induction ts generalizing n errs w with
  | nil => rfl
  | cons t rest ih =>
    rw [reconcileEach_cons]
    exact (reconcileTombstone_reachable r hco t rest n errs w).trans (ih _ _ _)

/-- With no other writer the system has at most one next state. -/
theorem step_noWrite_rightUnique : Relator.RightUnique (Step r hco noWrite) := by
  intro s s₁ s₂ h₁ h₂
  cases h₁ with
  | fetch hf hp =>
    cases h₂ with
    | fetch _ hp' => rw [hp] at hp'; cases hp'; rfl
    | delete hf' => rw [hf] at hf'; cases hf'
    | write _ _ hw => exact hw.elim
  | delete hf =>
    cases h₂ with
    | fetch hf' _ => rw [hf] at hf'; cases hf'
    | delete hf' => rw [hf] at hf'; cases hf'; rfl
    | write _ _ hw => exact hw.elim
  | write _ _ hw => exact hw.elim

/-- With nothing pending, nothing held and no other writer, the system has
stopped. -/
theorem not_step_of_done {s s' : Sys} (hp : s.loop.pending = []) (hf : s.loop.fetched = none) :
    ¬ Step r hco noWrite s s' := by
  intro h
  cases h with
  | fetch _ hp' => rw [hp] at hp'; cases hp'
  | delete hf' => rw [hf] at hf'; cases hf'
  | write _ _ hw => exact hw

/-- Run with no other writer until nothing is pending or held, the system stops
exactly where `ReconcileTombstones`' loop ends. -/
theorem reconcileEach_unique_end (ts : List TombstoneMetadata) (w : World) (s : Sys)
    (hrun : ReflTransGen (Step r hco noWrite) (Sys.init ts w) s)
    (hp : s.loop.pending = []) (hf : s.loop.fetched = none) :
    s = ⟨⟨[], none, (reconcileEach r hco ts 0 [] w).1.1, (reconcileEach r hco ts 0 [] w).1.2⟩,
      (reconcileEach r hco ts 0 [] w).2⟩ := by
  rcases ReflTransGen.total_of_right_unique (step_noWrite_rightUnique r hco) hrun
    (reconcileEach_reachable r hco ts 0 [] w) with h | h <;>
    rcases ReflTransGen.cases_head h with h | ⟨_, hst, -⟩
  · exact h
  · exact (not_step_of_done r hco hp hf hst).elim
  · exact h.symm
  · exact (not_step_of_done r hco rfl rfl hst).elim

end Autopilot

import Autopilot.Proofs.LabelGuard

/-!
# The reconciler's books against the server's log

`ReconcileTombstones` reports what it did three ways: the count and the error
it returns, the tombstone gauge, and the events it records. None of them is
read back from the cluster; each is bumped in the branch that handled an
answer. This file checks all three against the API server's audit log, in
every interleaving with other writers.

Each answer the reconciler gets has one meaning for the books
(`Exchange.gaugeStatus`, `Exchange.eventReason`): NotFound on a `Get` sets the
gauge to deleted and records nothing, another `Get` failure is an error, a live
object without the label is skipped, a labelled one sets nothing yet, and a
`Delete` is deleted or an error by its answer. Another actor's write means
nothing. `Sys.Logs` says what one step adds to the log and that the books move
with it; the three kinds of step each satisfy it (`fetchStep_logs`,
`deleteStep_logs`, `write_logs`).

`Sys.Ledger` is the invariant over a whole run: the count is the number of
served `Delete`s, the errors are the answers the gauge marks as errors, gauge
and events are the log's meanings in order, and the `Get`s followed by the
tombstones still pending are all the tombstones, in order, with every `Delete`
addressed to a key fetched before it and never twice for one `Get`.
-/

namespace Autopilot

namespace Exchange

/-- A `Delete` the server carried out. -/
def isServedDelete : Exchange → Bool
  | .delete _ _ (.ok ()) => true
  | _ => false

/-- The gauge value `reconcileTombstone` sets on this answer, if any. -/
def gaugeStatus : Exchange → Option TombstoneStatus
  | .get _ (.error e) => some (if e.notFound then .deleted else .error)
  | .get _ (.ok o) => if labelMismatch o.getLabels then some .skipped else none
  | .delete _ _ (.error _) => some .error
  | .delete _ _ (.ok ()) => some .deleted
  | .write _ _ => none

/-- The event `reconcileTombstone` records on this answer, if any. -/
def eventReason : Exchange → Option EventReason
  | .get _ (.error e) => if e.notFound then none else some .tombstoneFailed
  | .get _ (.ok o) => if labelMismatch o.getLabels then some .tombstoneSkipped else none
  | .delete _ _ (.error _) => some .tombstoneFailed
  | .delete _ _ (.ok ()) => some .tombstoneDeleted
  | .write _ _ => none

end Exchange

open Relation

variable (r : TombstoneReconciler) (hco : Unstructured)

/-- Step `s` to `s'` adds the exchange `x` to the log, and moves the gauge,
the events and the two counters by what `x` means. -/
structure Sys.Logs (s s' : Sys) (x : Exchange) : Prop where
  audit : s'.world.audit = s.world.audit ++ [x]
  gauge : s'.world.metrics.map Prod.snd = s.world.metrics.map Prod.snd ++ x.gaugeStatus.toList
  events : s'.world.events.map Event.reason =
    s.world.events.map Event.reason ++ if r.hasRecorder then x.eventReason.toList else []
  deleted : s'.loop.deleted = s.loop.deleted + if x.isServedDelete then 1 else 0
  errors : s'.loop.errors.length =
    s.loop.errors.length + if x.gaugeStatus = some .error then 1 else 0

/-! ## One step -/

theorem fetchStep_logs (t : TombstoneMetadata) (rest : List TombstoneMetadata) (s : Sys) :
    Sys.Logs r s (fetchStep r hco t rest s) (.get t.key (s.world.getAnswer t.key)) ∧
      (fetchStep r hco t rest s).loop.pending = rest ∧
      ((fetchStep r hco t rest s).loop.fetched = none ∨
        ∃ live, (fetchStep r hco t rest s).loop.fetched = some (t, live)) := by
  unfold fetchStep
  rcases fetchTombstone_cases r t hco s.world with
    ⟨e, hans, hn, h⟩ | ⟨e, hans, hn, h⟩ | ⟨o, hans, hl, h⟩ | ⟨o, hans, hl, h⟩ <;> rw [h]
  · exact ⟨⟨by simp, by simp [hans, hn, Exchange.gaugeStatus],
      by simp [hans, hn, Exchange.eventReason], by simp [hans, countDeleted, Exchange.isServedDelete],
      by simp [hans, hn, collectError, Exchange.gaugeStatus]⟩, rfl, .inl rfl⟩
  · exact ⟨⟨by simp, by simp [hans, hn, Exchange.gaugeStatus],
      by cases hr : r.hasRecorder <;> simp [hr, hans, hn, Exchange.eventReason, tombstoneEvent],
      by simp [hans, countDeleted, Exchange.isServedDelete],
      by simp [hans, hn, collectError, Exchange.gaugeStatus]⟩, rfl, .inl rfl⟩
  · have hm : labelMismatch o.getLabels = true := by
      rw [← Bool.not_eq_false, labelMismatch_eq_false_iff]; exact hl
    exact ⟨⟨by simp, by simp [hans, hm, Exchange.gaugeStatus],
      by cases hr : r.hasRecorder <;> simp [hr, hans, hm, Exchange.eventReason, tombstoneEvent],
      by simp [hans, countDeleted, Exchange.isServedDelete],
      by simp [hans, hm, collectError, Exchange.gaugeStatus]⟩, rfl, .inl rfl⟩
  · have hm := (labelMismatch_eq_false_iff o).mpr hl
    exact ⟨⟨by simp, by simp [hans, hm, Exchange.gaugeStatus],
      by simp [hans, hm, Exchange.eventReason], by simp [hans, Exchange.isServedDelete],
      by simp [hans, hm, Exchange.gaugeStatus]⟩, rfl, .inr ⟨o, rfl⟩⟩

theorem deleteStep_logs (t : TombstoneMetadata) (s : Sys) :
    Sys.Logs r s (deleteStep r hco t s)
        (.delete t.key (s.world.objects t.key) (s.world.deleteAnswer t.key)) ∧
      (deleteStep r hco t s).loop.pending = s.loop.pending ∧
      (deleteStep r hco t s).loop.fetched = none := by
  unfold deleteStep
  rcases deleteTombstone_cases r t hco s.world with ⟨e, hans, h⟩ | ⟨hans, h⟩ <;> rw [h]
  · exact ⟨⟨by simp, by simp [hans, Exchange.gaugeStatus],
      by cases hr : r.hasRecorder <;> simp [hr, hans, Exchange.eventReason, tombstoneEvent],
      by simp [hans, countDeleted, Exchange.isServedDelete],
      by simp [hans, collectError, Exchange.gaugeStatus]⟩, rfl, rfl⟩
  · exact ⟨⟨by simp, by simp [hans, Exchange.gaugeStatus],
      by cases hr : r.hasRecorder <;> simp [hr, hans, Exchange.eventReason, tombstoneEvent],
      by simp [hans, countDeleted, Exchange.isServedDelete],
      by simp [hans, collectError, Exchange.gaugeStatus]⟩, rfl, rfl⟩

theorem write_logs (s : Sys) (k : ObjKey) (o : Option Unstructured) :
    Sys.Logs r s { s with world := s.world.write k o } (.write k o) :=
  ⟨by simp, by simp [Exchange.gaugeStatus], by simp [Exchange.eventReason],
    by simp [Exchange.isServedDelete], by simp [Exchange.gaugeStatus]⟩

/-! ## Whole runs -/

/-- The reconciler's books after the log `new` since `w₀`, for the tombstones
`ts`: the order of its requests, its two counters, the gauge and the events. -/
structure Sys.Ledger (ts : List TombstoneMetadata) (w₀ : World) (s : Sys) (new : List Exchange) :
    Prop where
  audit : s.world.audit = w₀.audit ++ new
  gets : new.filterMap Exchange.getKey ++ s.loop.pending.map TombstoneMetadata.key =
    ts.map TombstoneMetadata.key
  deletes : (new.filterMap Exchange.deleteKey ++ (s.loop.fetched.map (·.1.key)).toList).Sublist
    (new.filterMap Exchange.getKey)
  deleted : s.loop.deleted = new.countP Exchange.isServedDelete
  errors : s.loop.errors.length = (new.filterMap Exchange.gaugeStatus).count .error
  gauge : s.world.metrics.map Prod.snd =
    w₀.metrics.map Prod.snd ++ new.filterMap Exchange.gaugeStatus
  events : s.world.events.map Event.reason =
    w₀.events.map Event.reason ++ if r.hasRecorder then new.filterMap Exchange.eventReason else []

variable {r}

/-- The counters and sinks follow the log through any step that logs. -/
theorem Sys.Ledger.books {ts : List TombstoneMetadata} {w₀ : World} {s s' : Sys}
    {new : List Exchange} {x : Exchange} (h : s.Ledger r ts w₀ new) (hl : Sys.Logs r s s' x) :
    s'.world.audit = w₀.audit ++ (new ++ [x]) ∧
      s'.loop.deleted = (new ++ [x]).countP Exchange.isServedDelete ∧
      s'.loop.errors.length = ((new ++ [x]).filterMap Exchange.gaugeStatus).count .error ∧
      s'.world.metrics.map Prod.snd =
        w₀.metrics.map Prod.snd ++ (new ++ [x]).filterMap Exchange.gaugeStatus ∧
      s'.world.events.map Event.reason = w₀.events.map Event.reason ++
        if r.hasRecorder then (new ++ [x]).filterMap Exchange.eventReason else [] := by
  refine ⟨by rw [hl.audit, h.audit, List.append_assoc], ?_, ?_, ?_, ?_⟩
  · rw [hl.deleted, h.deleted, List.countP_append]
    cases hx : x.isServedDelete <;> simp [hx]
  · rw [hl.errors, h.errors, List.filterMap_append, List.count_append]
    cases hx : x.gaugeStatus with
    | none => simp [hx]
    | some v => cases v <;> simp [hx]
  · rw [hl.gauge, h.gauge, List.filterMap_append, List.append_assoc]
    cases hx : x.gaugeStatus <;> simp [hx]
  · rw [hl.events, h.events]
    cases hr : r.hasRecorder
    · simp
    · cases hx : x.eventReason <;> simp [hx]

theorem Sys.Ledger.step {Allowed : Sys → ObjKey → Prop} {ts : List TombstoneMetadata}
    {w₀ : World} {s s' : Sys} (hs : Step r hco Allowed s s') (h : ∃ new, s.Ledger r ts w₀ new) :
    ∃ new, s'.Ledger r ts w₀ new := by
  obtain ⟨new, h⟩ := h
  cases hs with
  | @fetch t rest hnone hpend =>
    obtain ⟨hl, hp, hf⟩ := fetchStep_logs r hco t rest s
    obtain ⟨ha, hd, he, hg, hev⟩ := h.books hl
    refine ⟨_, ⟨ha, ?_, ?_, hd, he, hg, hev⟩⟩
    · rw [hp, ← h.gets, hpend]; simp [Exchange.getKey]
    · have hdel : (new.filterMap Exchange.deleteKey).Sublist (new.filterMap Exchange.getKey) := by
        simpa only [hnone, Option.map_none', Option.toList_none, List.append_nil] using h.deletes
      rcases hf with hf | ⟨live, hf⟩ <;> rw [hf]
      all_goals simp only [List.filterMap_append, List.filterMap_cons, List.filterMap_nil,
        Exchange.getKey, Exchange.deleteKey, Option.map_none', Option.map_some', Option.toList_none,
        Option.toList_some, List.append_nil]
      · exact hdel.trans (List.sublist_append_left _ _)
      · exact hdel.append (List.Sublist.refl [t.key])
  | @delete t live hheld =>
    obtain ⟨hl, hp, hf⟩ := deleteStep_logs r hco t s
    obtain ⟨ha, hd, he, hg, hev⟩ := h.books hl
    refine ⟨_, ⟨ha, ?_, ?_, hd, he, hg, hev⟩⟩
    · rw [hp, ← h.gets]; simp [Exchange.getKey]
    · have hdel := h.deletes
      rw [hheld] at hdel
      rw [hf]
      simpa [Exchange.getKey, Exchange.deleteKey] using hdel
  | write k o hk =>
    obtain ⟨ha, hd, he, hg, hev⟩ := h.books (write_logs r s k o)
    refine ⟨_, ⟨ha, ?_, ?_, hd, he, hg, hev⟩⟩
    · rw [← h.gets]; simp [Exchange.getKey]
    · simpa [Exchange.getKey, Exchange.deleteKey] using h.deletes

end Autopilot

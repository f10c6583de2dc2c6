import MarketConnector.Ib.OrderHandle

/-!
# Ib - The validation warning overlay

On a warning code `ib_async` overwrites the status of a trade with `ValidationError` and
appends a log entry of that status.  `_effective_status` looks through this overlay; the
synthetic cancel rule does not, since it tests the overwritten status itself.

Main results:

- Theorem `effectiveStatus_overlay`: what a snapshot sees under the overlay.
- Theorem `overlayTransparent_iff`: the overlay is transparent on every trade but a local
  cancel on an informational code.
-/

namespace MarketConnector
namespace Ib

open Foundations

/-! ## The overlay -/

/-- Latest known status of a log. -/
def lastKnownStatus (log : List LogEntry) : Option RawStatus :=
  (log.reverse.find? fun entry => (tradeStatusMap entry.status).isSome).map LogEntry.status

/-- `t` after warnings with the codes `warnings`: the status is overwritten, and each
warning leaves a log entry. -/
def Trade.overlay (t : Trade) (warnings : List Int) : Trade :=
  { t with
    status := .validationError
    log := t.log ++ warnings.map fun code => ⟨.validationError, code⟩ }

/-- A local cancel on an informational code: IB has cancelled nothing. -/
def InformationalCancel (t : Trade) : Prop :=
  t.status = .cancelled ∧ t.permId = 0 ∧
    ∃ entry ∈ t.log, entry.errorCode ∈ informationalOrderCodes

instance (t : Trade) : Decidable (InformationalCancel t) :=
  inferInstanceAs (Decidable (_ ∧ _ ∧ _))

/-- Status of the snapshot of a trade, or the error of taking it. -/
def reportedStatus (ref : Nat) (own : Option Int) (t : Trade) : Except OrderError IBOrderState :=
  (OrderHandle.fromTrade ref t own).map OrderHandle.status

/-- State of an order IB has accepted and works. -/
def acknowledgedState (t : Trade) : IBOrderState :=
  if 0 < (filledQty t).value then .partiallyFilled else .submitted

/-- The overlay `t'` of `t` is transparent: it shows the status of `t`, an unacknowledged
order with a permId as acknowledged, and neither shows an informational cancel as
`CANCELLED`. -/
structure OverlayTransparent (ref : Nat) (own : Option Int) (t t' : Trade) : Prop where
  status : reportedStatus ref own t' =
    if t.status ∈ unacknowledgedStatuses ∧ t.permId ≠ 0 then .ok (acknowledgedState t)
    else reportedStatus ref own t
  notCancelled : InformationalCancel t →
    reportedStatus ref own t ≠ .ok .cancelled ∧ reportedStatus ref own t' ≠ .ok .cancelled

/-! ## What the snapshot sees -/

theorem isSyntheticCancel_iff {t : Trade} : isSyntheticCancel t = true ↔ InformationalCancel t := by
  by_cases hstatus : t.status = .cancelled <;> by_cases hperm : t.permId = 0 <;>
    simp [isSyntheticCancel, InformationalCancel, hstatus, hperm]

theorem priorStatus_eq (log : List LogEntry) :
    priorStatus log = (lastKnownStatus log).getD .pendingSubmit := by
  unfold priorStatus lastKnownStatus
  cases log.reverse.find? fun entry => (tradeStatusMap entry.status).isSome with
  | none => simp
  | some entry => simp

/-- Warnings do not change the latest known status. -/
@[simp]
theorem lastKnownStatus_append_warnings (log : List LogEntry) (warnings : List Int) :
    lastKnownStatus (log ++ warnings.map fun code => ⟨.validationError, code⟩) =
      lastKnownStatus log := by
  have hnone : (warnings.map fun code => LogEntry.mk .validationError code).reverse.find?
      (fun entry => (tradeStatusMap entry.status).isSome) = none := by
    simp [tradeStatusMap]
  simp [lastKnownStatus, List.find?_append, hnone]

/-- A latest known status is a key of `_TRADE_STATUS_MAP`. -/
theorem tradeStatusMap_of_lastKnown {log : List LogEntry} {status : RawStatus}
    (hlast : lastKnownStatus log = some status) : (tradeStatusMap status).isSome = true := by
  unfold lastKnownStatus at hlast
  obtain ⟨entry, hfind, rfl⟩ := Option.map_eq_some_iff.mp hlast
  simpa using List.find?_some hfind

/-- Under the overlay a snapshot sees the latest known status, unless the permId shows that
it is stale. -/
theorem effectiveStatus_overlay {t : Trade} {status : RawStatus} (warnings : List Int)
    (hlast : lastKnownStatus t.log = some status) :
    effectiveStatus (t.overlay warnings) =
      if status ∈ unacknowledgedStatuses ∧ t.permId ≠ 0 then .submitted else status := by
  simp [effectiveStatus, Trade.overlay, priorStatus_eq, hlast]

@[simp]
theorem isSyntheticCancel_overlay (t : Trade) (warnings : List Int) :
    isSyntheticCancel (t.overlay warnings) = false := by
  simp [isSyntheticCancel, Trade.overlay]

/-! ## Transparency -/

/-- Without the overlay the effective status is the status itself. -/
theorem effectiveStatus_of_known {t : Trade} (hknown : (tradeStatusMap t.status).isSome = true) :
    effectiveStatus t = t.status := by
  have hne : t.status ≠ .validationError := by
    intro h
    simp [h, tradeStatusMap] at hknown
  simp [effectiveStatus, hne]

/-- The reported status in terms of the order state. -/
theorem reportedStatus_of_orderState (ref : Nat) (own : Option Int) {t : Trade}
    {state : IBOrderState} (hstate : orderState t = some state) :
    reportedStatus ref own t = .ok state := by
  obtain ⟨h, hsnap, hstatus, -⟩ := fromTrade_of_orderState ref own hstate
  simp [reportedStatus, hsnap, Except.map, hstatus]

/-- Snapshots of trades with one order state report the same. -/
theorem reportedStatus_congr (ref : Nat) (own : Option Int) {t t' : Trade} {state : IBOrderState}
    (hstate : orderState t = some state) (heq : orderState t' = orderState t) :
    reportedStatus ref own t' = reportedStatus ref own t := by
  rw [reportedStatus_of_orderState ref own hstate,
    reportedStatus_of_orderState ref own (heq.trans hstate)]

/-- A trade of known status has an order state. -/
theorem orderState_of_known {t : Trade} (hknown : (tradeStatusMap t.status).isSome = true) :
    ∃ state, orderState t = some state := by
  by_cases hsyn : isSyntheticCancel t = true
  · simp [orderState, hsyn]
  · obtain ⟨base, hbase⟩ := Option.isSome_iff_exists.mp hknown
    simp [orderState, hsyn, effectiveStatus_of_known hknown, hbase]

/-- On a stale unacknowledged status the overlay shows the order as accepted. -/
theorem reportedStatus_overlay_stale (ref : Nat) (own : Option Int) {t : Trade}
    (warnings : List Int) (hlast : lastKnownStatus t.log = some t.status)
    (hstale : t.status ∈ unacknowledgedStatuses ∧ t.permId ≠ 0) :
    reportedStatus ref own (t.overlay warnings) = .ok (acknowledgedState t) := by
  apply reportedStatus_of_orderState
  have heff : effectiveStatus (t.overlay warnings) = .submitted := by
    rw [effectiveStatus_overlay warnings hlast, if_pos hstale]
  have hfilled : filledQty (t.overlay warnings) = filledQty t := by
    simp [filledQty, Trade.overlay]
  simp [orderState, heff, hfilled, tradeStatusMap, acknowledgedState]

/-- On any other status that is no informational cancel the overlay shows the same state. -/
theorem reportedStatus_overlay (ref : Nat) (own : Option Int) {t : Trade}
    (warnings : List Int) (hlast : lastKnownStatus t.log = some t.status)
    (hfresh : ¬ (t.status ∈ unacknowledgedStatuses ∧ t.permId ≠ 0))
    (hcancel : ¬ InformationalCancel t) :
    reportedStatus ref own (t.overlay warnings) = reportedStatus ref own t := by
  have hknown := tradeStatusMap_of_lastKnown hlast
  obtain ⟨state, hstate⟩ := orderState_of_known hknown
  apply reportedStatus_congr ref own hstate
  have heff : effectiveStatus (t.overlay warnings) = effectiveStatus t := by
    rw [effectiveStatus_overlay warnings hlast, if_neg hfresh, effectiveStatus_of_known hknown]
  have hsyn : isSyntheticCancel t = false := by
    simpa [← isSyntheticCancel_iff] using hcancel
  have hfilled : filledQty (t.overlay warnings) = filledQty t := by
    simp [filledQty, Trade.overlay]
  simp [orderState, heff, hsyn, hfilled]

/-- The overlay shows an informational cancel as `CANCELLED`. -/
theorem reportedStatus_overlay_cancel (ref : Nat) (own : Option Int) {t : Trade}
    (warnings : List Int) (hlast : lastKnownStatus t.log = some t.status)
    (hcancel : InformationalCancel t) :
    reportedStatus ref own (t.overlay warnings) = .ok .cancelled := by
  have heff : effectiveStatus (t.overlay warnings) = .cancelled := by
    rw [effectiveStatus_overlay warnings hlast, hcancel.1]
    simp [unacknowledgedStatuses]
  apply reportedStatus_of_orderState
  simp [orderState, heff, tradeStatusMap]

/-- The overlay is transparent exactly when the trade is no informational cancel: there the
overwritten status hides the synthetic cancel, and the order IB still works is shown as
`CANCELLED`. -/
theorem overlayTransparent_iff (ref : Nat) (own : Option Int) {t : Trade} (warnings : List Int)
    (hlast : lastKnownStatus t.log = some t.status) :
    OverlayTransparent ref own t (t.overlay warnings) ↔ ¬ InformationalCancel t := by
  constructor
  · intro htransparent hcancel
    have hshown := reportedStatus_overlay_cancel ref own warnings hlast hcancel
    exact (htransparent.notCancelled hcancel).2 hshown
  · intro hcancel
    refine ⟨?_, fun h => absurd h hcancel⟩
    by_cases hstale : t.status ∈ unacknowledgedStatuses ∧ t.permId ≠ 0
    · rw [if_pos hstale]
      exact reportedStatus_overlay_stale ref own warnings hlast hstale
    · rw [if_neg hstale]
      exact reportedStatus_overlay ref own warnings hlast hstale hcancel

/-- A warning over a submitted order is transparent. -/
theorem overlayTransparent_submitted :
    OverlayTransparent 0 none
      ⟨7, 41, 0, .ofNat 3, .submitted, none, none, "", [⟨.pendingSubmit, 0⟩, ⟨.submitted, 0⟩]⟩
      (Trade.overlay
        ⟨7, 41, 0, .ofNat 3, .submitted, none, none, "", [⟨.pendingSubmit, 0⟩, ⟨.submitted, 0⟩]⟩
        [399]) :=
  (overlayTransparent_iff 0 none [399] (by decide)).mpr (by decide)

/-- A local cancel on code 10349, then warning 399: reported as pending before the warning
and as cancelled after it. -/
theorem overlay_of_informational_cancel :
    let t : Trade := ⟨7, 0, 0, .ofNat 3, .cancelled, none, none, "",
      [⟨.pendingSubmit, 0⟩, ⟨.cancelled, 10349⟩]⟩
    lastKnownStatus t.log = some t.status ∧
      reportedStatus 0 none t = .ok .pending ∧
      reportedStatus 0 none (t.overlay [399]) = .ok .cancelled ∧
      ¬ OverlayTransparent 0 none t (t.overlay [399]) := by
  intro t
  have hlast : lastKnownStatus t.log = some t.status := by decide
  have hcancel : InformationalCancel t := by decide
  refine ⟨hlast, rfl, reportedStatus_overlay_cancel 0 none [399] hlast hcancel, ?_⟩
  intro htransparent
  exact (htransparent.notCancelled hcancel).2
    (reportedStatus_overlay_cancel 0 none [399] hlast hcancel)

end Ib
end MarketConnector

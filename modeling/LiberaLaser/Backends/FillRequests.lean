import LiberaLaser.Backends.EtherDream.Model
import LiberaLaser.Backends.LaserCubeNet
import LiberaLaser.Backends.LaserCubeUsb

/-!
# The fill requests of the point-ingester backends

Three workers decide by themselves how many points to ask for. Whatever the rate, the latency, the
snapshots and the readings of the clock are, and however the arithmetic rounds, what they ask for
fits above what they estimate the device to hold.
-/

namespace LiberaLaser

open FloatArith

/-- **Device buffers are never over-requested.** -/
theorem fillRequests_fit (D : Type) [FloatArith D] :
    (∀ (c : EtherDreamController) (clock : ℕ → TimePoint),
      let (request, estimate) := c.getFillRequest D clock
      request.minimumPointsRequired ≤ request.maximumPointsRequired ∧
        (0 < request.maximumPointsRequired →
          estimate + request.maximumPointsRequired ≤
            c.getBufferSize - EtherDreamController.writeHeadroomPoints) ∧
        request.maximumPointsRequired ≤ EtherDreamController.maxDataCommandPoints) ∧
    (∀ (c : LaserCubeNetController) (targetLatency : ℤ) (now renderNow : TimePoint)
        (request : PointFillRequest), 0 ≤ c.pointBufferCapacity →
      c.fillRequest D targetLatency now renderNow = some request →
      request.minimumPointsRequired ≤ request.maximumPointsRequired ∧
        c.minEstimatedBufferFullness D now + request.maximumPointsRequired ≤
          c.pointBufferCapacity ∧
        (request.maximumPointsRequired : ℤ) ≤ LaserCubeNetController.maxPointsPerPacket) ∧
    (∀ (c : LaserCubeUsbController) (targetLatency : ℤ) (now : TimePoint)
        (request : PointFillRequest),
      c.fillRequest D targetLatency now = some request →
      request.minimumPointsRequired ≤ request.maximumPointsRequired ∧
        c.estimateBufferFullness D now + request.maximumPointsRequired ≤
          LaserCubeUsbController.bufferCapacity) := by
  refine ⟨?_, ?_, ?_⟩
  · intro c clock
    exact EtherDreamController.getFillRequest_bounds clock
  · intro c targetLatency now renderNow request hcapacity hrequest
    exact LaserCubeNetController.fillRequest_bounds hcapacity hrequest
  · intro c targetLatency now request hrequest
    exact LaserCubeUsbController.fillRequest_bounds hrequest

/-- A worker whose device holds 6000 points and reported 300 of them a millisecond ago. -/
def fillingNetController : LaserCubeNetController where
  lastSentPointRate := 30000
  pointBufferCapacity := 6000
  lastDataSentTime := 1
  lastDataSentBufferSize := 100
  lastAckTime := 1
  lastReportedBufferFullness := 300

theorem fillRequests_fit_net :
    ∃ request, fillingNetController.fillRequest ℚ 100 1000001 1000001 = some request ∧
      request.minimumPointsRequired ≤ request.maximumPointsRequired ∧
      fillingNetController.minEstimatedBufferFullness ℚ 1000001 + request.maximumPointsRequired ≤
        6000 ∧ (request.maximumPointsRequired : ℤ) ≤ LaserCubeNetController.maxPointsPerPacket := by
  obtain ⟨request, hrequest⟩ : ∃ request,
      fillingNetController.fillRequest ℚ 100 1000001 1000001 = some request :=
    Option.isSome_iff_exists.mp (by decide +kernel)
  exact ⟨request, hrequest, (fillRequests_fit ℚ).2.1 _ _ _ _ _ (by decide) hrequest⟩

end LiberaLaser

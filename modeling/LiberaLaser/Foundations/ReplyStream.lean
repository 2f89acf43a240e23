import Mathlib.Data.List.Basic
import Mathlib.Order.Nat

/-!
# Replies on a stream

A peer answers every request with one reply, in order, on one stream. What it sends is kept in a
queue with the number of the request it answers; a greeting counts as the reply to request `0`.
Replies may be late, so a read may fail at any time with a part of its bytes consumed. A stream
with nothing unread is in step: the next request and a complete read get that very reply
(`readExact_request`), while what a failed read leaves behind comes before every later reply.
-/

/-- What the peer has sent and nobody has read, byte for byte with the number of the request it
answers, and the number of requests so far. -/
structure ReplyStream (β : Type*) where
  unread : List (ℕ × β)
  requests : ℕ
  deriving DecidableEq

namespace ReplyStream

variable {β : Type*}

/-- How a read ends. -/
inductive ReadOutcome
  | complete
  | failed (consumed : ℕ)
  deriving DecidableEq

/-- A new stream, which the peer opens with a greeting. -/
def greet (greeting : List β) : ReplyStream β := ⟨greeting.map (0, ·), 0⟩

/-- A request reaches the peer, which answers it some time. -/
def request (reply : List β) (s : ReplyStream β) : ReplyStream β :=
  ⟨s.unread ++ reply.map (s.requests + 1, ·), s.requests + 1⟩

/-- Read `size` bytes. A read that fails, or has to wait for bytes that never come, consumes fewer
of them. -/
def readExact (size : ℕ) (outcome : ReadOutcome) (s : ReplyStream β) :
    ReplyStream β × Option (List (ℕ × β)) :=
  match outcome with
  | .complete =>
    if size ≤ s.unread.length then
      ({ s with unread := s.unread.drop size }, some (s.unread.take size))
    else ({ s with unread := [] }, none)
  | .failed consumed => ({ s with unread := s.unread.drop (min consumed (size - 1)) }, none)

/-- Nothing is unread. -/
def InStep (s : ReplyStream β) : Prop := s.unread = []

/-- The bytes answer request `n`. -/
def Answers (n : ℕ) (bytes : List (ℕ × β)) : Prop := ∀ b ∈ bytes, b.1 = n

/-- What a complete read of a single reply does. -/
theorem readExact_whole {n size : ℕ} {reply : List β} (hsize : reply.length = size)
    (s : ReplyStream β) (hs : s.unread = reply.map (n, ·)) :
    s.readExact size .complete =
      ({ s with unread := [] }, some (reply.map (n, ·))) := by
  have hlength : s.unread.length = size := by rw [hs, List.length_map, hsize]
  simp only [readExact, hlength, le_refl, if_true]
  rw [List.drop_of_length_le hlength.le, List.take_of_length_le hlength.le, hs]

theorem answers_map (n : ℕ) (reply : List β) : Answers n (reply.map (n, ·)) := by
  intro b hb
  obtain ⟨b', -, rfl⟩ := List.mem_map.mp hb
  rfl

/-- **In step, a request and a complete read get the reply** to that request, and the stream is in
step again. -/
theorem readExact_request {size : ℕ} {reply : List β} (hsize : reply.length = size)
    {s : ReplyStream β} (hs : s.InStep) :
    (s.request reply).readExact size .complete =
      (⟨[], s.requests + 1⟩, some (reply.map (s.requests + 1, ·))) :=
  readExact_whole hsize (s.request reply) (by rw [request, hs, List.nil_append])

/-- The greeting comes first. -/
theorem readExact_greet {size : ℕ} {greeting : List β} (hsize : greeting.length = size) :
    (greet greeting).readExact size .complete = (⟨[], 0⟩, some (greeting.map (0, ·))) :=
  readExact_whole hsize (greet greeting) rfl

/-- The bytes of a read are as many as were asked for. -/
theorem length_of_readExact {size : ℕ} {outcome : ReadOutcome} {s s' : ReplyStream β}
    {bytes : List (ℕ × β)} (h : s.readExact size outcome = (s', some bytes)) :
    bytes.length = size := by
  unfold readExact at h
  split at h
  · split at h
    · rename_i hsize
      simp only [Prod.mk.injEq, Option.some.injEq] at h
      rw [← h.2, List.length_take]
      exact min_eq_left hsize
    · simp at h
  · simp at h

end ReplyStream

import Mathlib.Data.List.Infix

/-!
# Finding messages in a stream that arrives in pieces

`search` finds the first place where a pattern occurs. A `Decoder` looks at the front of a buffer
and either waits or takes something off and reports it, and what it decides of a buffer it still
decides when more is behind it. So it does not matter where the stream is cut: what `decode` reports
of a longer buffer is what it reports of the shorter one, and then of the rest with what arrived
(`decode_append`).
-/

namespace Framing

variable {α ω : Type*}

/-! ## Search -/

section Search

variable {pattern text found : List α}

/-- A pattern that does not start a text which is long enough for it does not start the text with
more behind it either. -/
theorem not_prefix_append (hlength : pattern.length ≤ text.length) (h : ¬ pattern <+: text)
    (more : List α) : ¬ pattern <+: text ++ more := fun hmore =>
  h (List.prefix_of_prefix_length_le hmore (List.prefix_append text more) hlength)

variable [DecidableEq α]

/-- What is left from the first occurrence of the pattern on. -/
def search (pattern : List α) : List α → Option (List α)
  | [] => if pattern <+: [] then some [] else none
  | x :: text => if pattern <+: x :: text then some (x :: text) else search pattern text

theorem search_of_prefix (h : pattern <+: text) : search pattern text = some text := by
  cases text with
  | nil => exact if_pos h
  | cons x text => exact if_pos h

theorem search_cons_of_not {x : α} (h : ¬ pattern <+: x :: text) :
    search pattern (x :: text) = search pattern text := if_neg h

theorem prefix_of_search (h : search pattern text = some found) : pattern <+: found := by
  induction text with
  | nil =>
    rw [search] at h
    split at h
    · rename_i hp
      cases h
      exact hp
    · cases h
  | cons x text ih =>
    rw [search] at h
    split at h
    · rename_i hp
      cases h
      exact hp
    · exact ih h

theorem suffix_of_search (h : search pattern text = some found) : found <:+ text := by
  induction text with
  | nil =>
    rw [search] at h
    split at h
    · cases h
      exact List.suffix_rfl
    · cases h
  | cons x text ih =>
    rw [search] at h
    split at h
    · cases h
      exact List.suffix_rfl
    · exact (ih h).trans (List.suffix_cons x text)

/-- **A first occurrence stays the first occurrence** when more arrives. -/
theorem search_append (h : search pattern text = some found) (more : List α) :
    search pattern (text ++ more) = some (found ++ more) := by
  induction text with
  | nil =>
    rw [search] at h
    split at h
    · rename_i hp
      cases h
      exact search_of_prefix (hp.trans (List.prefix_append [] more))
    · cases h
  | cons x text ih =>
    rw [search] at h
    split at h
    · rename_i hp
      cases h
      exact search_of_prefix (hp.trans (List.prefix_append (x :: text) more))
    · rename_i hp
      have hlength : pattern.length ≤ (x :: text).length :=
        (prefix_of_search h).length_le.trans
          ((suffix_of_search h).length_le.trans (Nat.le_succ text.length))
      exact (search_cons_of_not (not_prefix_append hlength hp more)).trans (ih h)

/-- **Only the last places matter**: where no occurrence was found, all but one place less than the
length of the pattern can be dropped without losing a later one. -/
theorem search_drop_append (h : search pattern text = none) {n : ℕ}
    (hn : n + (pattern.length - 1) ≤ text.length) (more : List α) :
    search pattern (text.drop n ++ more) = search pattern (text ++ more) := by
  induction n generalizing text with
  | zero => rw [List.drop_zero]
  | succ n ih =>
    cases text with
    | nil => simp at hn
    | cons x text =>
      rw [search] at h
      split at h
      · cases h
      · rename_i hp
        simp only [List.length_cons] at hn
        have hlength : pattern.length ≤ (x :: text).length := by
          rw [List.length_cons]
          omega
        rw [List.drop_succ_cons, ih h (by omega)]
        exact (search_cons_of_not (not_prefix_append hlength hp more)).symm

end Search

/-! ## Decoders -/

/-- A decoder of a stream. `next` waits for more, or reports something and leaves what is behind
it; it makes progress, and more behind the buffer does not change what it takes. -/
structure Decoder (α ω : Type*) where
  next : List α → Option (ω × List α)
  progress : ∀ {buffer report rest}, next buffer = some (report, rest) →
    rest.length < buffer.length
  stable : ∀ {buffer report rest}, next buffer = some (report, rest) → ∀ more,
    next (buffer ++ more) = some (report, rest ++ more)

namespace Decoder

variable (d : Decoder α ω)

/-- Take off the buffer what can be taken. The results are the reports and the rest. -/
def decode (buffer : List α) : List ω × List α :=
  match h : d.next buffer with
  | none => ([], buffer)
  | some (report, rest) =>
    have := d.progress h
    (report :: (decode rest).1, (decode rest).2)
termination_by buffer.length

variable {d}

theorem decode_of_none {buffer : List α} (h : d.next buffer = none) :
    d.decode buffer = ([], buffer) := by
  rw [decode]
  split
  · rfl
  · rename_i h'
    rw [h] at h'
    cases h'

theorem decode_of_some {buffer rest : List α} {report : ω}
    (h : d.next buffer = some (report, rest)) :
    d.decode buffer = (report :: (d.decode rest).1, (d.decode rest).2) := by
  rw [decode]
  split
  · rename_i h'
    rw [h] at h'
    cases h'
  · rename_i h'
    rw [h] at h'
    cases h'
    rfl

/-- The rules by which a decoder works through a buffer. -/
theorem decode_induction {P : List α → Prop} (hwait : ∀ buffer, d.next buffer = none → P buffer)
    (htake : ∀ buffer report rest, d.next buffer = some (report, rest) → P rest → P buffer)
    (buffer : List α) : P buffer := by
  induction hn : buffer.length using Nat.strong_induction_on generalizing buffer with
  | _ n ih =>
    cases h : d.next buffer with
    | none => exact hwait buffer h
    | some r =>
      have hlt := d.progress h
      exact htake buffer r.1 r.2 h (ih r.2.length (hn ▸ hlt) r.2 rfl)

/-- **The stream may be cut anywhere.** -/
theorem decode_append (buffer more : List α) :
    d.decode (buffer ++ more) =
      ((d.decode buffer).1 ++ (d.decode ((d.decode buffer).2 ++ more)).1,
        (d.decode ((d.decode buffer).2 ++ more)).2) := by
  induction buffer using decode_induction (d := d) with
  | hwait buffer h => rw [decode_of_none h, List.nil_append]
  | htake buffer report rest h ih =>
    rw [decode_of_some (d.stable h more), decode_of_some h, ih, List.cons_append]

/-! ## A buffer between reads -/

/-- Whatever arrives, the decoder takes the same off both buffers. -/
def Alike (d : Decoder α ω) (buffer buffer' : List α) : Prop :=
  ∀ more, d.next (buffer ++ more) = d.next (buffer' ++ more)

theorem Alike.rfl {buffer : List α} : d.Alike buffer buffer := fun _ => Eq.refl _

theorem Alike.trans {b₁ b₂ b₃ : List α} (h : d.Alike b₁ b₂) (h' : d.Alike b₂ b₃) :
    d.Alike b₁ b₃ := fun more => (h more).trans (h' more)

theorem Alike.append {b₁ b₂ : List α} (h : d.Alike b₁ b₂) (more : List α) :
    d.Alike (b₁ ++ more) (b₂ ++ more) := by
  intro rest
  rw [List.append_assoc, List.append_assoc]
  exact h (more ++ rest)

theorem Alike.decode {b₁ b₂ : List α} (h : d.Alike b₁ b₂) :
    (d.decode b₁).1 = (d.decode b₂).1 ∧ d.Alike (d.decode b₁).2 (d.decode b₂).2 := by
  have hnext : d.next b₁ = d.next b₂ := by simpa using h []
  cases hr : d.next b₁ with
  | none =>
    rw [decode_of_none hr, decode_of_none (hnext ▸ hr)]
    exact ⟨Eq.refl [], h⟩
  | some r =>
    have hr' : d.next b₂ = some (r.1, r.2) := hnext ▸ hr
    rw [decode_of_some hr, decode_of_some hr']
    exact ⟨Eq.refl _, Alike.rfl⟩

/-- Of the stream, the reports are made and the buffer is left. -/
structure Represents (d : Decoder α ω) (stream : List α) (reports : List ω) (buffer : List α) :
    Prop where
  reports : (d.decode stream).1 = reports ++ (d.decode buffer).1
  rest : d.Alike (d.decode stream).2 (d.decode buffer).2

namespace Represents

variable {stream buffer : List α} {reports : List ω}

theorem nil (d : Decoder α ω) (stream : List α) : d.Represents stream [] stream :=
  ⟨Eq.refl _, Alike.rfl⟩

theorem arrive (h : d.Represents stream reports buffer) (chunk : List α) :
    d.Represents (stream ++ chunk) reports (buffer ++ chunk) := by
  obtain ⟨hreports, hrest⟩ := (h.rest.append chunk).decode
  constructor
  · rw [decode_append, decode_append buffer, h.reports, hreports, List.append_assoc]
  · rw [decode_append, decode_append buffer]
    exact hrest

theorem take (h : d.Represents stream reports buffer) {report : ω} {rest : List α}
    (hnext : d.next buffer = some (report, rest)) :
    d.Represents stream (reports ++ [report]) rest := by
  obtain ⟨hreports, hrest⟩ := h
  rw [decode_of_some hnext] at hreports hrest
  exact ⟨by rw [hreports, List.append_assoc, List.singleton_append], hrest⟩

/-- A decoder that waits may replace its buffer by one that it treats alike. -/
theorem replace (h : d.Represents stream reports buffer) {buffer' : List α}
    (halike : d.Alike buffer buffer') : d.Represents stream reports buffer' := by
  obtain ⟨hreports, hrest⟩ := halike.decode
  exact ⟨by rw [h.reports, hreports], h.rest.trans hrest⟩

theorem eq_of_waits (h : d.Represents stream reports buffer) (hnext : d.next buffer = none) :
    (d.decode stream).1 = reports := by
  rw [h.reports, decode_of_none hnext, List.append_nil]

end Represents

end Decoder

end Framing

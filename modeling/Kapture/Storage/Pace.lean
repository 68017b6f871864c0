import Kapture.Storage.Session

/-!
# How many objects a writer uploads

A write uploads only when the buffer is full or the flush interval has passed, so
the bytes written and the time that passed bound the sequence number. This matters
because sequence numbers are padded to six digits: the objects of a day sort in the
order they were written as long as there are fewer than a million.
-/

namespace Kapture.Storage

open Go

variable {env : Env} {f : WriterFactory} {J : Codec} {wr wr' : BufferedObjectWriter} {w w' : World}
  {req : CapturedRequest} {start : Time} {total : Nat}

/-- A clock that does not go back. -/
def Monotone (env : Env) : Prop := ∀ j k, j ≤ k → env.now j ≤ env.now k

theorem normalizeFlushInterval_pos (interval : Duration) : 0 < normalizeFlushInterval interval := by
  unfold normalizeFlushInterval
  split
  · decide
  · exact Int.not_le.mp ‹_›

theorem normalizeMaxBufferBytes_pos (size : Int) : 0 < normalizeMaxBufferBytes size := by
  unfold normalizeMaxBufferBytes
  split
  · decide
  · exact Int.not_le.mp ‹_›

/-- A writer with the limits of its factory. -/
def Limits (f : WriterFactory) (wr : BufferedObjectWriter) : Prop :=
  wr.flushInterval = normalizeFlushInterval f.flushInterval
    ∧ wr.maxBufferBytes = normalizeMaxBufferBytes f.maxBufferBytes

/-- The uploads so far were paid for: some by full buffers, out of the `total` bytes
that were written, the others by the time since `start`. -/
def Pace (env : Env) (start : Time) (total : Nat) (wr : BufferedObjectWriter) (w : World) : Prop :=
  ∃ bySize byTime : Nat, wr.sequence ≤ bySize + byTime
    ∧ bySize * wr.maxBufferBytes + wr.buffer.length ≤ (total : Int)
    ∧ byTime * wr.flushInterval ≤ wr.lastFlush - start
    ∧ wr.lastFlush ≤ env.now w.clock

theorem Pace.later (hm : Monotone env) (h : Pace env start total wr w) (hc : w.clock ≤ w'.clock) :
    Pace env start total wr w' := by
  obtain ⟨a, c, hseq, hsize, htime, hlast⟩ := h
  exact ⟨a, c, hseq, hsize, htime, Int.le_trans hlast (hm _ _ hc)⟩

variable {res : Except Error Unit}

theorem limits_flushLocked (hl : Limits f wr) (h : flushLocked env f wr w = (res, wr', w')) :
    Limits f wr' := by
  rcases flushLocked_cases h with ⟨_, _, rfl, _⟩ | ⟨_, u, _, ⟨_, _, rfl, _⟩ | ⟨_, rfl, _⟩⟩
  · exact hl
  · exact hl
  · exact hl

theorem limits_write (hl : Limits f wr) (h : write env f J req wr w = (res, wr', w')) :
    Limits f wr' := by
  rcases write_cases h with ⟨_, rfl, _⟩ | ⟨line, _, _, ⟨_, rfl, _⟩ | ⟨u, _, hf⟩⟩
  · exact hl
  · exact hl
  · have hl' : Limits f (wr.append line) := hl
    exact limits_flushLocked hl' hf

/-- A flush is paid for by a full buffer or by the time that passed. -/
theorem Pace.flushLocked (hm : Monotone env) (h : Pace env start total wr w)
    (hwhy : wr.maxBufferBytes ≤ wr.buffer.length
      ∨ wr.flushInterval ≤ env.now w.clock - wr.lastFlush)
    (hf : flushLocked env f wr w = (.ok (), wr', w')) : Pace env start total wr' w' := by
  obtain ⟨a, c, hseq, hsize, htime, hlast⟩ := h
  dsimp only [Time, Duration] at hsize htime hlast hwhy
  rcases flushLocked_cases hf with ⟨hb, _, rfl, rfl⟩ | ⟨_, u, hu, ⟨err, herr, _, _⟩ | ⟨_, rfl, rfl⟩⟩
  · refine ⟨a, c, hseq, hsize, ?_, hm _ _ (Nat.le_succ _)⟩
    dsimp only [Time, Duration]
    omega
  · cases herr
  · have hclock : w.clock ≤ u.clock := by
      rw [(upload_ends hu).clock]
      exact Nat.le_succ _
    have hnow : (env.now w.clock : Int) ≤ env.now u.clock := hm _ _ hclock
    have hnow' : env.now u.clock ≤ env.now u.tick.clock := hm _ _ (Nat.le_succ _)
    rcases hwhy with hfull | hlate
    · refine ⟨a + 1, c, ?_, ?_, ?_, hnow'⟩
      · change wr.sequence + 1 ≤ a + 1 + c
        omega
      · have hmul : ((a + 1 : Nat) : Int) * wr.maxBufferBytes
            = a * wr.maxBufferBytes + wr.maxBufferBytes := by
          rw [Int.natCast_succ, Int.add_mul, Int.one_mul]
        change ((a + 1 : Nat) : Int) * wr.maxBufferBytes + 0 ≤ _
        omega
      · change (c : Int) * wr.flushInterval ≤ env.now u.clock - start
        dsimp only [Time, Duration] at hnow ⊢
        omega
    · refine ⟨a, c + 1, ?_, ?_, ?_, hnow'⟩
      · change wr.sequence + 1 ≤ a + (c + 1)
        omega
      · change (a : Int) * wr.maxBufferBytes + 0 ≤ _
        omega
      · have hmul : ((c + 1 : Nat) : Int) * wr.flushInterval
            = c * wr.flushInterval + wr.flushInterval := by
          rw [Int.natCast_succ, Int.add_mul, Int.one_mul]
        change ((c + 1 : Nat) : Int) * wr.flushInterval ≤ env.now u.clock - start
        dsimp only [Time, Duration] at hnow hmul ⊢
        omega

theorem Pace.write (hm : Monotone env) (hl : Limits f wr) (h : Pace env start total wr w)
    (hw : write env f J req wr w = (.ok (), wr', w')) :
    Pace env start (total + (jsonLine J req).length) wr' w' := by
  rcases write_cases hw with ⟨⟨_, herr⟩, _⟩ | ⟨line, hline, _, hcases⟩
  · cases herr
  · -- the line goes into the buffer first
    have happ : Pace env start (total + (jsonLine J req).length) (wr.append line) w := by
      obtain ⟨a, c, hseq, hsize, htime, hlast⟩ := h
      refine ⟨a, c, hseq, ?_, htime, hlast⟩
      simp only [BufferedObjectWriter.append, jsonLine, hline, List.length_append, Int.natCast_add]
      omega
    rcases hcases with ⟨_, rfl, rfl, _⟩ | ⟨u, ⟨hfull, rfl⟩ | ⟨_, hlate, rfl⟩, hf⟩
    · exact happ.later hm (Nat.le_succ _)
    · exact happ.flushLocked hm (Or.inl hfull) hf
    · refine (happ.later hm (Nat.le_succ w.clock)).flushLocked hm (Or.inr ?_) hf
      have hnow : (env.now w.clock : Int) ≤ env.now (w.clock + 1) := hm _ _ (Nat.le_succ _)
      change wr.flushInterval ≤ env.now (w.clock + 1) - wr.lastFlush
      have hpos := normalizeFlushInterval_pos f.flushInterval
      rw [← hl.1] at hpos
      dsimp only [BufferedObjectWriter.Due, Time, Duration, Time.sub] at hlate hnow hpos ⊢
      omega

/-- **Bytes and time bound the sequence number.** -/
theorem Pace.sequence_le {duration : Duration} (hl : Limits f wr) (h : Pace env start total wr w)
    (hd : env.now w.clock - start ≤ duration) :
    (wr.sequence : Int) ≤ total / normalizeMaxBufferBytes f.maxBufferBytes
      + duration / normalizeFlushInterval f.flushInterval := by
  obtain ⟨a, c, hseq, hsize, htime, hlast⟩ := h
  rw [hl.1] at htime
  rw [hl.2] at hsize
  have ha : (a : Int) ≤ total / normalizeMaxBufferBytes f.maxBufferBytes :=
    (Int.le_ediv_iff_mul_le (normalizeMaxBufferBytes_pos _)).mpr (by omega)
  have hc : (c : Int) ≤ duration / normalizeFlushInterval f.flushInterval := by
    refine (Int.le_ediv_iff_mul_le (normalizeFlushInterval_pos _)).mpr ?_
    dsimp only [Time, Duration] at hd htime hlast ⊢
    omega
  omega

end Kapture.Storage

import CardLink.Error

/-!
# What a byte stream delivers

A source is the script of everything that a reader of a stream will meet, in order. One read takes at most
the rest of one chunk; a chunk without bytes is a read that says the peer is gone. Interrupted reads are
tried again. Where the script waits for frames, nothing arrives until that many frames were written to
the peer, so a peer that answers is a script too.
-/

namespace CardLink

inductive ReadEvent where
  /-- Bytes that arrive together; none at all mean the end of the stream for one read. -/
  | chunk (bytes : Bytes)
  | failure (e : IoError)
  /-- What follows arrives once that many frames were written. -/
  | await (frames : Nat)
  deriving DecidableEq, Repr

/-- What a read meets after the script: the end of the stream, or a silent peer. -/
inductive SourceEnd where
  | eof | silent
  deriving DecidableEq, Repr

structure Source where
  events : List ReadEvent := []
  atEnd : SourceEnd := .eof
  deriving DecidableEq, Repr

/-- Why reading stopped before the wanted bytes were there. -/
inductive ReadStop where
  /-- A read returned nothing. -/
  | gone
  | failed (e : IoError)
  /-- The peer neither sends nor hangs up. -/
  | silent
  deriving DecidableEq, Repr

def SourceEnd.stop : SourceEnd → ReadStop
  | .eof => .gone
  | .silent => .silent

def ReadEvent.size : ReadEvent → Nat
  | .chunk bytes => bytes.length + 1
  | _ => 1

namespace Source

/-- The size of a script: every byte and every event counts. -/
def scriptSize : List ReadEvent → Nat
  | [] => 0
  | e :: rest => e.size + scriptSize rest

/-- How much script is left. -/
def size (s : Source) : Nat := scriptSize s.events

/-- Reads until `need` bytes are there. Gives the bytes obtained, why reading stopped early if it did, and
the rest of the script. -/
def fill (sent : Nat) (atEnd : SourceEnd) :
    Nat → List ReadEvent → Bytes × Option ReadStop × List ReadEvent
  | 0, events => ([], none, events)
  | _ + 1, [] => ([], some atEnd.stop, [])
  | need + 1, .chunk bytes :: rest =>
    if bytes = [] then ([], some .gone, rest)
    else if bytes.length ≤ need + 1 then
      let (more, stop, rest) := fill sent atEnd (need + 1 - bytes.length) rest
      (bytes ++ more, stop, rest)
    else (bytes.take (need + 1), none, .chunk (bytes.drop (need + 1)) :: rest)
  | need + 1, .failure e :: rest =>
    if e.kind = .interrupted then fill sent atEnd (need + 1) rest else ([], some (.failed e), rest)
  | need + 1, .await frames :: rest =>
    if frames ≤ sent then fill sent atEnd (need + 1) rest
    else ([], some .silent, .await frames :: rest)

/-- Whether nothing will arrive, and the peer will not hang up either, before more frames are written. -/
def isStarved (s : Source) (sent : Nat) : Bool :=
  match s.events with
  | [] => s.atEnd == .silent
  | .await frames :: _ => sent < frames
  | _ => false

/-- Names why `expected` bytes are not there. A deadline is a timeout only while no byte was taken. -/
def failure (expected received : Nat) : ReadStop → TransportError
  | .gone => .connectionClosed expected received
  | .silent => if received = 0 then .timeout else .stalled expected received
  | .failed e =>
    if e.kind.isDeadline ∧ received ≠ 0 then .stalled expected received else .ofIo e

/-- Reads exactly `expected` bytes. On failure the bytes already taken are lost. -/
def read (expected sent : Nat) (s : Source) : Except TransportError Bytes × Source :=
  match fill sent s.atEnd expected s.events with
  | (bytes, none, events) => (.ok bytes, { s with events })
  | (bytes, some stop, events) => (.error (failure expected bytes.length stop), { s with events })

/-- Reads the rest of something under way, so a deadline is a stall in any case. -/
def readRest (expected sent : Nat) (s : Source) : Except TransportError Bytes × Source :=
  match s.read expected sent with
  | (.error .timeout, s) => (.error (.stalled expected 0), s)
  | outcome => outcome

/-! ## The script only shrinks -/

theorem scriptSize_cons (e : ReadEvent) (events : List ReadEvent) :
    scriptSize (e :: events) = e.size + scriptSize events := rfl

theorem fill_size (sent : Nat) (atEnd : SourceEnd) (need : Nat) (events : List ReadEvent) :
    scriptSize (fill sent atEnd need events).2.2 + (fill sent atEnd need events).1.length
      ≤ scriptSize events := by
  fun_induction fill sent atEnd need events with
  | case1 => simp
  | case2 => simp
  | case3 => simp [scriptSize_cons]
  | case4 need bytes rest _ _ more stop rest' h ih =>
    rw [h] at ih
    simp only [List.length_append, scriptSize_cons, ReadEvent.size] at ih ⊢
    omega
  | case5 need bytes rest _ h =>
    simp only [List.length_take, scriptSize_cons, ReadEvent.size, List.length_drop]
    omega
  | case6 need e rest h ih =>
    simp only [scriptSize_cons, ReadEvent.size]
    omega
  | case7 => simp [scriptSize_cons]
  | case8 need frames rest h ih =>
    simp only [scriptSize_cons, ReadEvent.size]
    omega
  | case9 => simp

/-- Reading stops early or gives exactly as many bytes as were wanted. -/
theorem fill_length (sent : Nat) (atEnd : SourceEnd) (need : Nat) (events : List ReadEvent)
    (h : (fill sent atEnd need events).2.1 = none) :
    (fill sent atEnd need events).1.length = need := by
  fun_induction fill sent atEnd need events with
  | case1 => rfl
  | case2 => simp at h
  | case3 => simp at h
  | case4 need bytes rest _ hle more stop rest' heq ih =>
    rw [heq] at ih
    simp only [List.length_append] at ih ⊢
    have := ih h
    omega
  | case5 need bytes rest _ hle =>
    simp only [List.length_take]
    omega
  | case6 need e rest _ ih => exact ih h
  | case7 => simp at h
  | case8 need frames rest _ ih => exact ih h
  | case9 => simp at h

theorem read_size_le (expected sent : Nat) (s : Source) : (s.read expected sent).2.size ≤ s.size := by
  have h := fill_size sent s.atEnd expected s.events
  unfold read
  split <;> next heq =>
    rw [heq] at h
    simp only [size] at *
    omega

theorem readRest_size_le (expected sent : Nat) (s : Source) :
    (s.readRest expected sent).2.size ≤ s.size := by
  have h := read_size_le expected sent s
  unfold readRest
  split
  · next heq => simpa [heq] using h
  · exact h

theorem readRest_ne_timeout (expected sent : Nat) (s : Source) :
    (s.readRest expected sent).1 ≠ .error .timeout := by
  unfold readRest
  split
  · simp
  · next outcome h =>
    intro heq
    exact h _ (Prod.ext heq rfl)

/-- Bytes that were read are gone from the script. -/
theorem read_size_lt {expected sent : Nat} {s s' : Source} {bytes : Bytes} (hpos : 0 < expected)
    (h : s.read expected sent = (.ok bytes, s')) : s'.size < s.size := by
  have hf := fill_size sent s.atEnd expected s.events
  have hl := fill_length sent s.atEnd expected s.events
  unfold read at h
  split at h
  · next heq =>
    rw [heq] at hf hl
    cases h
    have := hl rfl
    simp only [size] at *
    omega
  · simp at h

/-- A timeout has used up a deadline of the script, unless nothing was ever going to arrive. -/
theorem read_timeout_size_lt {expected sent : Nat} {s s' : Source} (hpos : 0 < expected)
    (hs : s.isStarved sent = false) (h : s.read expected sent = (.error .timeout, s')) :
    s'.size < s.size := by
  obtain ⟨events, atEnd⟩ := s
  obtain ⟨need, rfl⟩ : ∃ need, expected = need + 1 := ⟨expected - 1, by omega⟩
  have hf := fill_size sent atEnd (need + 1) events
  unfold read at h
  split at h
  · simp at h
  · next bytes stop rest heq =>
    simp only [Prod.mk.injEq, Except.error.injEq] at h
    obtain ⟨hfail, rfl⟩ := h
    simp only [size]
    cases events with
    | nil =>
      cases atEnd with
      | silent => simp [isStarved] at hs
      | eof =>
        simp only [fill, SourceEnd.stop, Prod.mk.injEq, Option.some.injEq] at heq
        obtain ⟨rfl, rfl, rfl⟩ := heq
        simp [failure] at hfail
    | cons e rest' =>
      cases e with
      | chunk chunk =>
        simp only [fill] at heq
        by_cases hc : chunk = []
        · simp only [hc, if_pos, Prod.mk.injEq, Option.some.injEq] at heq
          obtain ⟨rfl, rfl, rfl⟩ := heq
          simp [failure] at hfail
        · have hpos' : 0 < chunk.length := List.length_pos_iff.mpr hc
          by_cases hle : chunk.length ≤ need + 1
          · have := fill_size sent atEnd (need + 1 - chunk.length) rest'
            rcases hmore : fill sent atEnd (need + 1 - chunk.length) rest' with ⟨more, stop', rest''⟩
            rw [hmore] at heq this
            simp only [hc, if_false, hle, if_true, Prod.mk.injEq] at heq
            obtain ⟨_, _, rfl⟩ := heq
            simp only [scriptSize_cons, ReadEvent.size]
            simp only at this
            omega
          · simp [hc, hle] at heq
      | failure e =>
        simp only [fill] at heq
        by_cases hi : e.kind = .interrupted
        · simp only [hi, if_true] at heq
          have := fill_size sent atEnd (need + 1) rest'
          rw [heq] at this
          simp only [scriptSize_cons, ReadEvent.size]
          simp only at this
          omega
        · simp only [hi, if_false, Prod.mk.injEq] at heq
          obtain ⟨_, _, rfl⟩ := heq
          simp only [scriptSize_cons, ReadEvent.size]
          omega
      | await frames =>
        simp only [isStarved, decide_eq_false_iff_not, Nat.not_lt] at hs
        simp only [fill, hs, if_true] at heq
        have := fill_size sent atEnd (need + 1) rest'
        rw [heq] at this
        simp only [scriptSize_cons, ReadEvent.size]
        simp only at this
        omega

end Source
end CardLink
